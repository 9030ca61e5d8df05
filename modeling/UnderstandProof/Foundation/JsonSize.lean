import Mathlib.Data.Bool.AllAny
import UnderstandProof.Foundation.JsValue
import UnderstandProof.Foundation.Utf8

/-!
# The size of a JSON text

A text without lone surrogates has as many bytes as its parts together, and so has the text that it
is escaped to. A printed value has no lone surrogates and no control characters: printed again as a
string, it takes one byte more for every quotation mark and every backslash.
-/

namespace Foundation

namespace JsString

/-! ## Sizes -/

/-- A measure of texts that adds up behind a text without lone surrogates. -/
structure IsSize (size : JsString → ℕ) : Prop where
  append : ∀ {s : JsString}, isWellFormed s = true → ∀ t, size (s ++ t) = size s + size t

theorem utf8Encode_append {s : JsString} (h : isWellFormed s = true) (t : JsString) :
    utf8Encode (s ++ t) = utf8Encode s ++ utf8Encode t := by
  fun_induction isWellFormed s with
  | case1 => rfl
  | case2 c =>
      simp only [Bool.and_eq_true, Bool.not_eq_true'] at h
      rw [List.singleton_append, utf8Encode_cons h.1]
      rfl
  | case3 c d rest hpair ih =>
      rw [List.cons_append, List.cons_append, utf8Encode, if_pos hpair, utf8Encode, if_pos hpair,
        ih h, List.append_assoc]
  | case4 c d rest hpair ih =>
      simp only [Bool.and_eq_true, Bool.not_eq_true'] at h
      rw [List.cons_append, utf8Encode_cons h.1.1, utf8Encode_cons h.1.1, ih h.2,
        List.append_assoc]

theorem isSize_utf8Bytes : IsSize utf8Bytes where
  append h t := by rw [utf8Bytes, utf8Encode_append h, List.length_append, utf8Bytes, utf8Bytes]

/-- The quotation marks and the backslashes of a text. -/
def marks (s : JsString) : ℕ := s.countP fun c => c == 0x22 || c == 0x5c

@[simp] theorem marks_nil : marks [] = 0 := rfl

theorem marks_append (s t : JsString) : marks (s ++ t) = marks s + marks t :=
  List.countP_append

theorem marks_cons (c : UInt16) (s : JsString) :
    marks (c :: s) = marks s + if c == 0x22 || c == 0x5c then 1 else 0 :=
  List.countP_cons

end JsString

namespace Json

open JsString

/-! ## Escaping -/

theorem escape_append {s : JsString} (h : isWellFormed s = true) (t : JsString) :
    escape (s ++ t) = escape s ++ escape t := by
  have hcons : ∀ {c : UInt16}, isHighSurrogate c = false → ∀ t : JsString,
      escape (c :: t) = escapeUnit c ++ escape t := by
    intro c hc t
    cases t with
    | nil => simp [escape]
    | cons d rest => rw [escape, hc, Bool.false_and, if_neg Bool.false_ne_true]
  fun_induction isWellFormed s with
  | case1 => rfl
  | case2 c =>
      simp only [Bool.and_eq_true, Bool.not_eq_true'] at h
      rw [List.singleton_append, hcons h.1]
      rfl
  | case3 c d rest hpair ih =>
      rw [List.cons_append, List.cons_append, escape, if_pos hpair, escape, if_pos hpair, ih h]
      rfl
  | case4 c d rest hpair ih =>
      simp only [Bool.and_eq_true, Bool.not_eq_true'] at h
      rw [List.cons_append, hcons h.1.1, hcons h.1.1, ih h.2, List.append_assoc]

/-- The bytes of the text that is printed inside the quotation marks of a string. -/
def escapedBytes (s : JsString) : ℕ := utf8Bytes (escape s)

theorem isSize_escapedBytes : IsSize escapedBytes where
  append h t := by
    rw [escapedBytes, escape_append h, isSize_utf8Bytes.append (isWellFormed_escape _),
      escapedBytes, escapedBytes]

theorem utf8Bytes_quote (s : JsString) : utf8Bytes (quote s) = escapedBytes s + 2 := by
  have hopen : quote s = [0x22] ++ (escape s ++ [0x22]) := rfl
  rw [hopen, isSize_utf8Bytes.append (by decide),
    isSize_utf8Bytes.append (isWellFormed_escape _), escapedBytes]
  have hmark : utf8Bytes [0x22] = 1 := by decide
  omega

/-- No control character. -/
def IsPrinted (s : JsString) : Prop := ∀ c ∈ s, 0x20 ≤ c

theorem IsPrinted.append {s t : JsString} (hs : IsPrinted s) (ht : IsPrinted t) :
    IsPrinted (s ++ t) := fun c hc => (List.mem_append.mp hc).elim (hs c) (ht c)

theorem IsPrinted.cons {c : UInt16} {s : JsString} (hc : 0x20 ≤ c) (hs : IsPrinted s) :
    IsPrinted (c :: s) := List.forall_mem_cons.mpr ⟨hc, hs⟩

theorem isPrinted_nil : IsPrinted [] := fun _ h => nomatch h

/-- Of the units of a printed text only quotation marks and backslashes are escaped. -/
theorem utf8Bytes_escapeUnit {c : UInt16} (hprinted : 0x20 ≤ c)
    (hhigh : isHighSurrogate c = false) (hlow : isLowSurrogate c = false) :
    utf8Bytes (escapeUnit c) = utf8Bytes [c] + marks [c] := by
  have hcontrol : ∀ d : UInt16, d < 0x20 → (c == d) = false := by
    intro d hd
    rw [beq_eq_false_iff_ne]
    rintro rfl
    exact absurd (UInt16.lt_iff_toNat_lt.mp hd)
      (Nat.not_lt.mpr (UInt16.le_iff_toNat_le.mp hprinted))
  by_cases hmark : (c == 0x22 || c == 0x5c) = true
  · rw [escapeUnit, if_pos hmark, marks_cons, if_pos hmark]
    rw [Bool.or_eq_true, beq_iff_eq, beq_iff_eq] at hmark
    rcases hmark with rfl | rfl <;> decide
  · have hnot : ¬ (c < 0x20 || isHighSurrogate c || isLowSurrogate c) = true := by
      simp only [hhigh, hlow, Bool.or_false, decide_eq_true_eq]
      exact fun hlt => absurd (UInt16.lt_iff_toNat_lt.mp hlt)
        (Nat.not_lt.mpr (UInt16.le_iff_toNat_le.mp hprinted))
    rw [escapeUnit, if_neg hmark, hcontrol 0x08 (by decide), hcontrol 0x09 (by decide),
      hcontrol 0x0a (by decide), hcontrol 0x0c (by decide), hcontrol 0x0d (by decide)]
    rw [if_neg Bool.false_ne_true, if_neg Bool.false_ne_true, if_neg Bool.false_ne_true,
      if_neg Bool.false_ne_true, if_neg Bool.false_ne_true, if_neg hnot, marks_cons,
      if_neg hmark]
    rfl

/-- Printed again, a printed text takes one byte more for every quotation mark and backslash. -/
theorem escapedBytes_eq {s : JsString} (h : isWellFormed s = true) (hprinted : IsPrinted s) :
    escapedBytes s = utf8Bytes s + marks s := by
  unfold escapedBytes
  fun_induction isWellFormed s with
  | case1 => rfl
  | case2 c =>
      simp only [Bool.and_eq_true, Bool.not_eq_true'] at h
      exact utf8Bytes_escapeUnit (hprinted c List.mem_cons_self) h.1 h.2
  | case3 c d rest hpair ih =>
      have hrest := ih h fun e he => hprinted e (List.mem_cons_of_mem _ (List.mem_cons_of_mem _ he))
      have hmark : ∀ e : UInt16, 0xd800 ≤ e.toNat → ¬ (e == 0x22 || e == 0x5c) = true := by
        intro e he
        rw [Bool.or_eq_true, beq_iff_eq, beq_iff_eq]
        rintro (rfl | rfl) <;> simp at he
      obtain ⟨hhigh, hlow⟩ := Bool.and_eq_true_iff.mp hpair
      have hc := (isHighSurrogate_iff.mp hhigh).1
      have hd := (isLowSurrogate_iff.mp hlow).1
      rw [escape, if_pos hpair, marks_cons, marks_cons, if_neg (hmark c hc),
        if_neg (hmark d (by omega))]
      simp only [utf8Bytes, utf8Encode, if_pos hpair, List.length_append] at hrest ⊢
      omega
  | case4 c d rest hpair ih =>
      simp only [Bool.and_eq_true, Bool.not_eq_true'] at h
      have hrest := ih h.2 fun e he => hprinted e (List.mem_cons_of_mem _ he)
      have hunit := utf8Bytes_escapeUnit (hprinted c List.mem_cons_self) h.1.1 h.1.2
      have hc : isWellFormed [c] = true := by simp [isWellFormed, h.1]
      have hsplit := isSize_utf8Bytes.append hc (d :: rest)
      have hmarks := marks_append [c] (d :: rest)
      rw [List.singleton_append] at hsplit hmarks
      rw [escape, if_neg hpair, isSize_utf8Bytes.append (isWellFormed_escapeUnit c), hunit, hrest,
        hsplit, hmarks]
      omega

/-! ## What is printed -/

theorem isPrinted_escapeUnit (c : UInt16) : IsPrinted (escapeUnit c) := by
  have hhex : ∀ n < 16, 0x20 ≤ hexDigit n := by decide
  have hlt := c.toNat_lt
  have hletter : ∀ letter : UInt16, 0x20 ≤ letter → IsPrinted [0x5c, letter] :=
    fun letter h => .cons (by decide) (.cons h isPrinted_nil)
  simp only [escapeUnit, beq_iff_eq, Bool.or_eq_true]
  split
  · next h => rcases h with rfl | rfl <;> exact hletter _ (by decide)
  split
  · exact hletter _ (by decide)
  split
  · exact hletter _ (by decide)
  split
  · exact hletter _ (by decide)
  split
  · exact hletter _ (by decide)
  split
  · exact hletter _ (by decide)
  split
  · exact .cons (by decide) (.cons (by decide) (.cons (hhex _ (by omega)) (.cons
      (hhex _ (by omega)) (.cons (hhex _ (by omega)) (.cons (hhex _ (by omega)) isPrinted_nil)))))
  · next h =>
      simp only [not_or, decide_eq_true_eq] at h
      exact .cons (UInt16.not_lt.mp h.1.1) isPrinted_nil

theorem isPrinted_escape (s : JsString) : IsPrinted (escape s) := by
  have hsurrogate : ∀ e : UInt16, 0xd800 ≤ e.toNat → 0x20 ≤ e := by
    intro e he
    rw [UInt16.le_iff_toNat_le]
    exact le_trans (by decide) he
  fun_induction escape s with
  | case1 => exact isPrinted_nil
  | case2 c => exact isPrinted_escapeUnit c
  | case3 c d rest hpair ih =>
      obtain ⟨hhigh, hlow⟩ := Bool.and_eq_true_iff.mp hpair
      have hd := (isLowSurrogate_iff.mp hlow).1
      exact .cons (hsurrogate c (isHighSurrogate_iff.mp hhigh).1)
        (.cons (hsurrogate d (by omega)) ih)
  | case4 c d rest _ ih => exact (isPrinted_escapeUnit c).append ih

theorem isPrinted_quote (s : JsString) : IsPrinted (quote s) :=
  .append (.cons (by decide) (isPrinted_escape s)) (.cons (by decide) isPrinted_nil)

theorem isPrinted_stringify (json : Json) : IsPrinted (stringify json) := by
  induction json using Json.induction with
  | null => exact List.all_iff_forall_prop.mp (by decide)
  | bool b => cases b <;> exact List.all_iff_forall_prop.mp (by decide)
  | num n =>
      intro c hc
      have hdigit := isDigit_of_mem_decimal hc
      simp only [isDigit, Bool.and_eq_true, decide_eq_true_eq, UInt16.le_iff_toNat_le] at hdigit
      exact UInt16.le_iff_toNat_le.mpr (le_trans (by decide) hdigit.1)
  | str s => exact isPrinted_quote s
  | arr items hitems =>
      have hall : IsPrinted (stringifyItems items) := by
        induction items with
        | nil => exact isPrinted_nil
        | cons item rest ih =>
            rw [List.forall_mem_cons] at hitems
            rw [stringifyItems_cons]
            refine hitems.1.append ?_
            cases rest with
            | nil => exact isPrinted_nil
            | cons _ _ => exact .cons (by decide) (ih hitems.2)
      exact .append (.cons (by decide) hall) (.cons (by decide) isPrinted_nil)
  | obj fields hfields =>
      have hall : IsPrinted (stringifyFields fields) := by
        induction fields with
        | nil => exact isPrinted_nil
        | cons field rest ih =>
            rw [List.forall_mem_cons] at hfields
            rw [stringifyFields_cons]
            refine (isPrinted_quote _).append (.cons (by decide) (hfields.1.append ?_))
            cases rest with
            | nil => exact isPrinted_nil
            | cons _ _ => exact .cons (by decide) (ih hfields.2)
      exact .append (.cons (by decide) hall) (.cons (by decide) isPrinted_nil)

/-- A printed value inside a string. -/
theorem escapedBytes_stringify (json : Json) :
    escapedBytes (stringify json) = utf8Bytes (stringify json) + marks (stringify json) :=
  escapedBytes_eq (isWellFormed_stringify json) (isPrinted_stringify json)

/-! ## Sizes of values -/

theorem isWellFormed_stringifyFields (fields : List (JsString × Json)) :
    isWellFormed (stringifyFields fields) = true := by
  induction fields with
  | nil => rfl
  | cons field rest ih =>
      rw [stringifyFields_cons]
      refine isWellFormed_append (isWellFormed_quote _)
        (isWellFormed_cons (by decide) (isWellFormed_append (isWellFormed_stringify _) ?_))
      cases rest with
      | nil => rfl
      | cons _ _ => exact isWellFormed_cons (by decide) ih

theorem isWellFormed_stringifyItems (items : List Json) :
    isWellFormed (stringifyItems items) = true := by
  induction items with
  | nil => rfl
  | cons item rest ih =>
      rw [stringifyItems_cons]
      refine isWellFormed_append (isWellFormed_stringify _) ?_
      cases rest with
      | nil => rfl
      | cons _ _ => exact isWellFormed_cons (by decide) ih

section Sizes

variable {size : JsString → ℕ} (hsize : IsSize size)

include hsize

theorem size_cons {c : UInt16} (hc : c < 0xd800) (s : JsString) :
    size (c :: s) = size [c] + size s :=
  hsize.append (s := [c]) (isWellFormed_of_lt (by simpa using hc)) s

/-- The size of the first of several items. -/
theorem size_stringifyItems_cons (item : Json) (items : List Json) :
    size (stringifyItems (item :: items)) = size (stringify item) + size (stringifyMore items) := by
  rw [stringifyItems_cons, hsize.append (isWellFormed_stringify item)]

theorem size_stringifyMore_cons (item : Json) (items : List Json) :
    size (stringifyMore (item :: items)) =
      size [0x2c] + (size (stringify item) + size (stringifyMore items)) := by
  rw [← size_stringifyItems_cons hsize, ← size_cons hsize (by decide)]
  rfl

theorem size_stringifyFields_cons (field : JsString × Json) (fields : List (JsString × Json)) :
    size (stringifyFields (field :: fields)) =
      size (quote field.1) + (size [0x3a] + (size (stringify field.2) +
        size (stringifyMoreFields fields))) := by
  rw [stringifyFields_cons, hsize.append (isWellFormed_quote _), size_cons hsize (by decide),
    hsize.append (isWellFormed_stringify _)]

/-- Items of the same sizes. -/
theorem size_items_congr {items items' : List Json}
    (h : List.Forall₂ (fun a b => size (stringify a) = size (stringify b)) items items') :
    size (stringifyItems items) = size (stringifyItems items') := by
  induction h with
  | nil => rfl
  | @cons item item' items items' hitem hitems ih =>
      rw [size_stringifyItems_cons hsize, size_stringifyItems_cons hsize, hitem]
      congr 1
      cases hitems with
      | nil => rfl
      | cons _ _ =>
          rw [size_stringifyMore_cons hsize, size_stringifyMore_cons hsize,
            ← size_stringifyItems_cons hsize, ← size_stringifyItems_cons hsize, ih]

/-- Fields with the same keys and with values of the same sizes. -/
theorem size_fields_congr {fields fields' : List (JsString × Json)}
    (h : List.Forall₂ (fun a b => a.1 = b.1 ∧ size (stringify a.2) = size (stringify b.2)) fields
      fields') :
    size (stringifyFields fields) = size (stringifyFields fields') := by
  induction h with
  | nil => rfl
  | @cons field field' fields fields' hfield hfields ih =>
      rw [size_stringifyFields_cons hsize, size_stringifyFields_cons hsize, hfield.1, hfield.2]
      congr 3
      cases hfields with
      | nil => rfl
      | cons _ _ =>
          rw [stringifyMoreFields, stringifyMoreFields, size_cons hsize (by decide),
            size_cons hsize (by decide) (stringifyFields _), ih]
          all_goals
            intro hnil
            cases hnil

/-- The order of the fields does not matter to the size. -/
theorem size_fields_perm {fields fields' : List (JsString × Json)} (h : fields.Perm fields') :
    size (stringifyFields fields) = size (stringifyFields fields') := by
  have hmore : ∀ {l m : List (JsString × Json)}, l.Perm m →
      size (stringifyFields l) = size (stringifyFields m) →
      size (stringifyMoreFields l) = size (stringifyMoreFields m) := by
    intro l m hperm hlm
    cases l with
    | nil => rw [List.nil_perm.mp hperm]
    | cons a l =>
        cases m with
        | nil => exact absurd (List.perm_nil.mp hperm) (List.cons_ne_nil _ _)
        | cons b m =>
            simp only [stringifyMoreFields]
            rw [size_cons hsize (by decide), size_cons hsize (by decide) (stringifyFields _), hlm]
  induction h with
  | nil => rfl
  | cons field hperm ih =>
      rw [size_stringifyFields_cons hsize, size_stringifyFields_cons hsize, hmore hperm ih]
  | swap a b l =>
      rw [size_stringifyFields_cons hsize, size_stringifyFields_cons hsize]
      simp only [stringifyMoreFields]
      rw [size_cons hsize (by decide) (stringifyFields _),
        size_cons hsize (by decide) (stringifyFields _), size_stringifyFields_cons hsize,
        size_stringifyFields_cons hsize]
      omega
  | trans _ _ ih ih' => exact ih.trans ih'

theorem size_arr (items : List Json) :
    size (stringify (.arr items)) = size [0x5b] + (size (stringifyItems items) + size [0x5d]) := by
  rw [stringify, List.cons_append, size_cons hsize (by decide),
    hsize.append (isWellFormed_stringifyItems _)]

theorem size_obj (fields : List (JsString × Json)) :
    size (stringify (.obj fields)) =
      size [0x7b] + (size (stringifyFields fields) + size [0x7d]) := by
  rw [stringify, List.cons_append, size_cons hsize (by decide),
    hsize.append (isWellFormed_stringifyFields _)]

/-- A field is no larger than its object. -/
theorem size_le_obj (front back : List (JsString × Json)) (key : JsString) (value : Json) :
    size (stringify value) ≤ size (stringify (.obj (front ++ (key, value) :: back))) := by
  rw [size_obj hsize, size_fields_perm hsize List.perm_middle, size_stringifyFields_cons hsize]
  dsimp only
  omega

/-- The last item is no larger than its array. -/
theorem size_le_arr (front : List Json) (value : Json) :
    size (stringify value) ≤ size (stringify (.arr (front ++ [value]))) := by
  rw [size_arr hsize]
  suffices h : size (stringify value) ≤ size (stringifyItems (front ++ [value])) by omega
  induction front with
  | nil =>
      rw [List.nil_append, size_stringifyItems_cons hsize]
      omega
  | cons item front ih =>
      have hmore : size (stringifyMore (front ++ [value])) =
          size [0x2c] + size (stringifyItems (front ++ [value])) := by
        rw [← size_cons hsize (by decide)]
        cases front <;> rfl
      rw [List.cons_append, size_stringifyItems_cons hsize, hmore]
      omega

/-- A value in the place of another among the fields of an object. -/
theorem size_obj_exchange (front back : List (JsString × Json)) (key : JsString)
    (value other : Json) :
    size (stringify (.obj (front ++ (key, value) :: back))) + size (stringify other) =
      size (stringify (.obj (front ++ (key, other) :: back))) + size (stringify value) := by
  rw [size_obj hsize, size_obj hsize, size_fields_perm hsize List.perm_middle,
    size_fields_perm hsize (List.perm_middle (a := (key, other))),
    size_stringifyFields_cons hsize, size_stringifyFields_cons hsize]
  dsimp only
  omega

/-- A value in the place of another among the items of an array. -/
theorem size_arr_exchange (front back : List Json) (value other : Json) :
    size (stringify (.arr (front ++ value :: back))) + size (stringify other) =
      size (stringify (.arr (front ++ other :: back))) + size (stringify value) := by
  rw [size_arr hsize, size_arr hsize]
  suffices h : size (stringifyItems (front ++ value :: back)) + size (stringify other) =
      size (stringifyItems (front ++ other :: back)) + size (stringify value) by omega
  induction front with
  | nil =>
      rw [List.nil_append, List.nil_append, size_stringifyItems_cons hsize,
        size_stringifyItems_cons hsize]
      omega
  | cons item front ih =>
      have hmore : ∀ json, size (stringifyMore (front ++ json :: back)) =
          size [0x2c] + size (stringifyItems (front ++ json :: back)) := by
        intro json
        rw [← size_cons hsize (by decide)]
        cases front <;> rfl
      rw [List.cons_append, List.cons_append, size_stringifyItems_cons hsize,
        size_stringifyItems_cons hsize, hmore, hmore]
      omega

end Sizes

end Json

namespace JsValue

open JsString
open Json (stringify stringifyFields stringifyItems)

mutual

/-- The JSON value that `JSON.stringify` prints, with the members in their order. -/
def toJson : JsValue → Json
  | undefined => .null
  | null => .null
  | bool b => .bool b
  | num n => .num n
  | str s => .str s
  | arr items => .arr (toJsonItems items)
  | obj fields => .obj (toJsonEntries fields)
  | other _ => .null

def toJsonItems : List JsValue → List Json
  | [] => []
  | item :: items => toJson item :: toJsonItems items

def toJsonEntries : List (JsString × JsValue) → List (JsString × Json)
  | [] => []
  | (key, value) :: fields =>
      if value.isUndefined then toJsonEntries fields
      else (key, toJson value) :: toJsonEntries fields

end

/-- The canonical text of a value is as large as its text. -/
theorem size_stringify_toJson {size : JsString → ℕ} (hsize : IsSize size) {value : JsValue}
    (h : value.Plain) : size (stringify value.toJson) = size value.stableJson := by
  rw [stableJson_eq h]
  induction h with
  | undefined => rfl
  | null => rfl
  | bool b => rfl
  | num n => rfl
  | str s => rfl
  | @arr items hplain ih =>
      clear hplain
      have hitems : List.Forall₂ (fun a b => size (stringify a) = size (stringify b))
          (toJsonItems items) (canonicalItems items) := by
        induction items with
        | nil => exact .nil
        | cons item items ihItems =>
            rw [List.forall_mem_cons] at ih
            exact .cons ih.1 (ihItems ih.2)
      rw [toJson, canonical, Json.size_arr hsize, Json.size_arr hsize,
        Json.size_items_congr hsize hitems]
  | @obj fields hplain ih =>
      clear hplain
      have hfields : List.Forall₂ (fun a b => a.1 = b.1 ∧
          size (stringify a.2) = size (stringify b.2)) (toJsonEntries fields)
          (canonicalEntries fields) := by
        induction fields with
        | nil => exact .nil
        | cons field fields ihFields =>
            rw [List.forall_mem_cons] at ih
            rw [toJsonEntries, canonicalEntries]
            split
            · exact ihFields ih.2
            · exact .cons ⟨rfl, ih.1⟩ (ihFields ih.2)
      rw [toJson, canonical, Json.size_obj hsize, Json.size_obj hsize,
        Json.size_fields_congr hsize hfields]
      exact congrArg (fun n => size [0x7b] + (n + size [0x7d]))
        (Json.size_fields_perm hsize (List.perm_insertionSort _ _).symm)

end JsValue

end Foundation
