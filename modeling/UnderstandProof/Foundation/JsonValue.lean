import Mathlib.Data.Rat.Defs
import UnderstandProof.Foundation.JsString

/-!
# Parsed JSON

The values that `JSON.parse` returns. A number is finite or, when its text is out
of range, infinite; the fields of an object are in their order.
-/

namespace Foundation

inductive JsonValue where
  | null
  | bool (b : Bool)
  | num (value : ℚ)
  | infinity (negative : Bool)
  | str (s : JsString)
  | arr (items : List JsonValue)
  | obj (fields : List (JsString × JsonValue))

namespace JsonValue

/-- The field of an object under a name. -/
def field? (name : JsString) (fields : List (JsString × JsonValue)) : Option JsonValue :=
  fields.lookup name

/-- `z.string().nullable().optional()`; the inner `none` is an absent field or a
null. -/
def nullableString : Option JsonValue → Option (Option JsString)
  | none => some none
  | some .null => some none
  | some (.str s) => some (some s)
  | some _ => none

/-- `z.number().int().nonnegative().max(maximum)`. -/
def boundedNatural (maximum : ℕ) : JsonValue → Option ℕ
  | .num value => if value.den = 1 ∧ 0 ≤ value.num ∧ value.num ≤ maximum then
      some value.num.toNat else none
  | _ => none

/-! ## The types that a schema asks for -/

/-- `z.object(…).strict()`: the fields of an object that has no others. -/
def strictFields (names : List JsString) : JsonValue → Option (List (JsString × JsonValue))
  | .obj fields => if fields.all fun field => names.contains field.1 then some fields else none
  | _ => none

/-- `z.string()` -/
def string : JsonValue → Option JsString
  | .str s => some s
  | _ => none

/-- `z.number().int()`, before its bounds. -/
def integer : JsonValue → Option ℤ
  | .num value => if value.den = 1 then some value.num else none
  | _ => none

/-- `z.literal` of a text. -/
def literal (text : JsString) : JsonValue → Option JsString
  | .str s => if s = text then some s else none
  | _ => none

/-- `z.array(item)` -/
def items {α : Type} (item : JsonValue → Option α) : JsonValue → Option (List α)
  | .arr values => values.mapM item
  | _ => none

end JsonValue

end Foundation
