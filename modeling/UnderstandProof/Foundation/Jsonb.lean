import UnderstandProof.Foundation.JsonText
import UnderstandProof.Foundation.Text

/-!
# Binary JSON of the database

The values of type `jsonb` whose numbers are integers, the cast from a JSON text,
and the operators on them. The fields of an object are kept sorted by the length of
their key and then by the key, without a duplicate, so equal values are equal terms.
A missing result is the SQL `NULL`, here `none`; a cast of a text to an integer may
also fail.
-/

namespace Foundation

open JsString

inductive Jsonb where
  | null
  | bool (b : Bool)
  | num (n : ℤ)
  | str (s : JsString)
  | arr (items : List Jsonb)
  | obj (fields : List (JsString × Jsonb))

namespace Jsonb

/-! ## Equality -/

mutual

def same : Jsonb → Jsonb → Bool
  | null, null => true
  | bool b, bool c => b == c
  | num n, num m => n == m
  | str s, str t => s == t
  | arr items, arr others => sameItems items others
  | obj fields, obj others => sameFields fields others
  | _, _ => false

def sameItems : List Jsonb → List Jsonb → Bool
  | [], [] => true
  | item :: items, other :: others => same item other && sameItems items others
  | _, _ => false

def sameFields : List (JsString × Jsonb) → List (JsString × Jsonb) → Bool
  | [], [] => true
  | (key, value) :: fields, (key', value') :: others =>
      key == key' && same value value' && sameFields fields others
  | _, _ => false

end

mutual

theorem same_iff : ∀ a b : Jsonb, same a b = true ↔ a = b
  | null, b => by cases b <;> simp [same]
  | bool _, b => by cases b <;> simp [same]
  | num _, b => by cases b <;> simp [same]
  | str _, b => by cases b <;> simp [same]
  | arr items, b => by
      cases b with
      | arr others => rw [same, sameItems_iff items others, arr.injEq]
      | null | bool | num | str | obj => simp [same]
  | obj fields, b => by
      cases b with
      | obj others => rw [same, sameFields_iff fields others, obj.injEq]
      | null | bool | num | str | arr => simp [same]

theorem sameItems_iff : ∀ l m : List Jsonb, sameItems l m = true ↔ l = m
  | [], m => by cases m <;> simp [sameItems]
  | item :: items, m => by
      cases m with
      | nil => simp [sameItems]
      | cons other others =>
          rw [sameItems, Bool.and_eq_true, same_iff item other, sameItems_iff items others,
            List.cons.injEq]

theorem sameFields_iff : ∀ l m : List (JsString × Jsonb), sameFields l m = true ↔ l = m
  | [], m => by cases m <;> simp [sameFields]
  | (key, value) :: fields, m => by
      cases m with
      | nil => simp [sameFields]
      | cons other others =>
          obtain ⟨key', value'⟩ := other
          rw [sameFields, Bool.and_eq_true, Bool.and_eq_true, beq_iff_eq,
            same_iff value value', sameFields_iff fields others, List.cons.injEq,
            Prod.mk.injEq]

end

instance : DecidableEq Jsonb := fun a b => decidable_of_iff _ (same_iff a b)

/-! ## The text of a value -/

def printInteger (n : ℤ) : JsString :=
  if n < 0 then 0x2d :: decimal n.natAbs else decimal n.natAbs

mutual

/-- `::text` -/
def print : Jsonb → JsString
  | null => js "null"
  | bool true => js "true"
  | bool false => js "false"
  | num n => printInteger n
  | str s => Json.quote s
  | arr items => 0x5b :: printItems items ++ [0x5d]
  | obj fields => 0x7b :: printFields fields ++ [0x7d]

def printItems : List Jsonb → JsString
  | [] => []
  | [item] => print item
  | item :: next :: items => print item ++ 0x2c :: 0x20 :: printItems (next :: items)

def printFields : List (JsString × Jsonb) → JsString
  | [] => []
  | [(key, value)] => Json.quote key ++ 0x3a :: 0x20 :: print value
  | (key, value) :: next :: fields =>
      Json.quote key ++ 0x3a :: 0x20 :: print value ++ 0x2c :: 0x20 ::
        printFields (next :: fields)

end

/-! ## The operators -/

/-- `value->'key'` -/
def field (key : JsString) : Option Jsonb → Option Jsonb
  | some (obj fields) => fields.lookup key
  | _ => none

/-- `value->index` -/
def item (index : ℕ) : Option Jsonb → Option Jsonb
  | some (arr items) => items[index]?
  | _ => none

/-- What `->>` makes of the value that `->` finds. -/
def asText : Option Jsonb → Option JsString
  | none => none
  | some null => none
  | some (str s) => some s
  | some value => some (print value)

/-- `value->>'key'` -/
def fieldText (key : JsString) (value : Option Jsonb) : Option JsString :=
  asText (field key value)

/-! ## The cast from a JSON text -/

/-- The order of the keys of an object. -/
def keyBefore (key other : JsString) : Bool :=
  utf8Bytes key < utf8Bytes other || (utf8Bytes key == utf8Bytes other && before key other)

/-- A field goes to its place; under a key that is there, it replaces the value. -/
def insertField (key : JsString) (value : Jsonb) :
    List (JsString × Jsonb) → List (JsString × Jsonb)
  | [] => [(key, value)]
  | (other, kept) :: fields =>
      if key = other then (key, value) :: fields
      else if keyBefore key other then (key, value) :: (other, kept) :: fields
      else (other, kept) :: insertField key value fields

mutual

/-- `::jsonb` on the text of a JSON value. -/
def ofJson : Json → Jsonb
  | .null => null
  | .bool b => bool b
  | .num n => num n
  | .str s => str s
  | .arr items => arr (ofJsonItems items)
  | .obj fields => obj (ofJsonFields [] fields)

def ofJsonItems : List Json → List Jsonb
  | [] => []
  | item :: items => ofJson item :: ofJsonItems items

/-- The fields in the order of the text, on top of those already read. -/
def ofJsonFields (read : List (JsString × Jsonb)) :
    List (JsString × Json) → List (JsString × Jsonb)
  | [] => read
  | (key, value) :: fields => ofJsonFields (insertField key (ofJson value) read) fields

end

theorem lookup_insertField_self (key : JsString) (value : Jsonb)
    (fields : List (JsString × Jsonb)) :
    (insertField key value fields).lookup key = some value := by
  induction fields with
  | nil => simp [insertField]
  | cons other fields ih =>
      obtain ⟨other, kept⟩ := other
      rw [insertField]
      split_ifs with heq hbefore
      · exact List.lookup_cons_self
      · exact List.lookup_cons_self
      · rw [List.lookup_cons, beq_eq_false_iff_ne.mpr heq]
        exact ih

theorem lookup_insertField_of_ne {key other : JsString} (hne : other ≠ key) (value : Jsonb)
    (fields : List (JsString × Jsonb)) :
    (insertField key value fields).lookup other = fields.lookup other := by
  induction fields with
  | nil => rw [insertField, List.lookup_cons, beq_eq_false_iff_ne.mpr hne]
  | cons first fields ih =>
      obtain ⟨first, kept⟩ := first
      rw [insertField]
      split_ifs with heq hbefore
      · rw [← heq, List.lookup_cons, List.lookup_cons, beq_eq_false_iff_ne.mpr hne]
      · rw [List.lookup_cons, beq_eq_false_iff_ne.mpr hne]
      · rw [List.lookup_cons, List.lookup_cons, ih]

theorem lookup_ofJsonFields_of_not_mem {key : JsString} {fields : List (JsString × Json)}
    (h : key ∉ fields.map Prod.fst) (read : List (JsString × Jsonb)) :
    (ofJsonFields read fields).lookup key = read.lookup key := by
  induction fields generalizing read with
  | nil => rfl
  | cons first fields ih =>
      obtain ⟨first, value⟩ := first
      rw [List.map_cons, List.mem_cons, not_or] at h
      rw [ofJsonFields, ih h.2, lookup_insertField_of_ne h.1]

/-- The last field of a text under a key is the one that is found. -/
theorem field_ofJson {key : JsString} {value : Json} {fields later : List (JsString × Json)}
    (h : key ∉ later.map Prod.fst) :
    field key (some (ofJson (.obj (fields ++ (key, value) :: later)))) =
      some (ofJson value) := by
  rw [ofJson, field]
  suffices hread : ∀ read, (ofJsonFields read (fields ++ (key, value) :: later)).lookup key =
      some (ofJson value) from hread []
  intro read
  induction fields generalizing read with
  | nil =>
      rw [List.nil_append, ofJsonFields, lookup_ofJsonFields_of_not_mem h,
        lookup_insertField_self]
  | cons first fields ih =>
      obtain ⟨first, other⟩ := first
      rw [List.cons_append, ofJsonFields, ih]

theorem ofJsonItems_eq_map (items : List Json) : ofJsonItems items = items.map ofJson := by
  induction items with
  | nil => rfl
  | cons item items ih => rw [ofJsonItems, ih, List.map_cons]

end Jsonb

/-! ## Integers of the database -/

/-- The values of type `integer`. -/
def isInteger (n : ℤ) : Bool := -2 ^ 31 ≤ n && n < 2 ^ 31

theorem isInteger_iff {n : ℤ} :
    isInteger n = true ↔ -2147483648 ≤ n ∧ n < 2147483648 := by
  simp [isInteger]

/-- The number that decimal digits print. -/
def digitsValue (digits : JsString) : ℕ :=
  digits.foldl (fun value c => 10 * value + (c.toNat - 0x30)) 0

/-- The number of a text in plain decimal form. -/
def decimalInteger (text : JsString) : Option ℤ :=
  match text with
  | 0x2d :: digits =>
      if digits = [] ∨ digits.all Json.isDigit = false then none
      else some (-(digitsValue digits : ℤ))
  | digits =>
      if digits = [] ∨ digits.all Json.isDigit = false then none
      else some (digitsValue digits : ℤ)

/-- The errors of an SQL expression. -/
inductive SqlError where
  | invalidText
  | outOfRange
  | notAnObject
  | notAnArray
  deriving DecidableEq, Repr

/-- The value of an SQL expression; `none` is `NULL`. -/
abbrev Sql (α : Type) := Except SqlError (Option α)

/-- `text::integer` -/
def castInteger : Option JsString → Sql ℤ
  | none => .ok none
  | some text =>
      match decimalInteger text with
      | none => .error .invalidText
      | some n => if isInteger n then .ok (some n) else .error .outOfRange

namespace Sql

/-- A strict operator: `NULL` when an operand is. -/
def compare {α : Type} (op : α → α → Bool) (a b : Sql α) :
    Except SqlError (Option Bool) := do
  let left ← a
  let right ← b
  return left.bind fun x => right.map fun y => op x y

/-- Whether `c₁ OR c₂ OR …` is true, which is what `FILTER` and `IF` ask. -/
def anyTrue : List (Sql Bool) → Except SqlError Bool
  | [] => .ok false
  | c :: conditions => do
      let value ← c
      if value = some true then return true else anyTrue conditions

theorem anyTrue_eq_false_iff {conditions : List (Sql Bool)} :
    anyTrue conditions = .ok false ↔
      ∀ c ∈ conditions, ∃ value, c = .ok value ∧ value ≠ some true := by
  induction conditions with
  | nil => simp [anyTrue]
  | cons c conditions ih =>
      rw [List.forall_mem_cons, ← ih, anyTrue]
      cases c with
      | error e => exact ⟨(fun h => nomatch h), fun ⟨⟨_, hvalue, _⟩, _⟩ => nomatch hvalue⟩
      | ok value =>
          by_cases hvalue : value = some true
          · rw [hvalue]
            exact ⟨(fun h => nomatch h),
              fun ⟨⟨_, hv, hne⟩, _⟩ => absurd (Except.ok.inj hv).symm hne⟩
          · change (if value = some true then _ else _) = _ ↔ _
            rw [if_neg hvalue]
            exact ⟨fun h => ⟨⟨value, rfl, hvalue⟩, h⟩, fun h => h.2⟩

end Sql

theorem digitsValue_map_digit (l : List ℕ) (hl : ∀ d ∈ l, d < 10) :
    digitsValue (l.reverse.map fun digit => UInt16.ofNat (0x30 + digit)) =
      Nat.ofDigits 10 l := by
  induction l with
  | nil => rfl
  | cons d l ih =>
      rw [List.forall_mem_cons] at hl
      have hd : (UInt16.ofNat (0x30 + d)).toNat = 0x30 + d := by
        rw [UInt16.toNat_ofNat']
        omega
      have ih := ih hl.2
      unfold digitsValue at ih ⊢
      rw [List.reverse_cons, List.map_append, List.foldl_append, ih, List.map_singleton,
        List.foldl_cons, List.foldl_nil, hd, Nat.ofDigits_cons]
      omega

/-- Reading a printed number gives it back. -/
theorem digitsValue_decimal (n : ℕ) : digitsValue (decimal n) = n := by
  unfold decimal
  split
  · next h => rw [h]; rfl
  · rw [digitsValue_map_digit _ fun d hd => Nat.digits_lt_base (by omega) hd,
      Nat.ofDigits_digits]

theorem decimalInteger_printInteger (n : ℤ) :
    decimalInteger (Jsonb.printInteger n) = some n := by
  have hdigits : ∀ m, (decimal m).all Json.isDigit = true :=
    fun m => List.all_eq_true.mpr fun c hc => Json.isDigit_of_mem_decimal hc
  have hne : ∀ m, ¬ (decimal m = [] ∨ (decimal m).all Json.isDigit = false) := by
    intro m
    rw [hdigits]
    simpa using Json.decimal_ne_nil m
  unfold Jsonb.printInteger
  split
  · next hneg =>
      rw [decimalInteger, if_neg (hne _), digitsValue_decimal]
      congr 1
      omega
  · next hpos =>
      obtain ⟨c, digits, hdecimal⟩ := List.exists_cons_of_ne_nil (Json.decimal_ne_nil n.natAbs)
      have hc : c ≠ 0x2d := by
        rintro rfl
        have : Json.isDigit 0x2d = true :=
          Json.isDigit_of_mem_decimal (n := n.natAbs) (by simp [hdecimal])
        exact absurd this (by decide)
      have hplain : decimalInteger (decimal n.natAbs) =
          some ((digitsValue (decimal n.natAbs) : ℕ) : ℤ) := by
        unfold decimalInteger
        split
        · next rest heq =>
            rw [hdecimal, List.cons.injEq] at heq
            exact absurd heq.1 hc
        · rw [if_neg (hne _)]
      rw [hplain, digitsValue_decimal]
      congr 1
      omega

theorem castInteger_num (n : ℤ) : castInteger (Jsonb.asText (some (.num n))) =
    if isInteger n then .ok (some n) else .error .outOfRange := by
  have htext : Jsonb.asText (some (.num n)) = some (Jsonb.printInteger n) := by
    rw [Jsonb.asText, Jsonb.print]
    · rintro ⟨⟩
    · rintro s ⟨⟩
  rw [htext, castInteger, decimalInteger_printInteger]

end Foundation
