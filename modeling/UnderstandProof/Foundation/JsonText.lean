import UnderstandProof.Foundation.Json
import UnderstandProof.Foundation.Utf8

/-!
# The text of a JSON value determines the value

Every printed value is followed either by the end of the text or by a delimiter,
and no delimiter is a digit, so the text that is left behind a value is
determined as well. The induction over the value carries this: two values that
are printed at the front of one text are equal and leave the same rest.
-/

namespace Foundation

open JsString

namespace Json

/-! ## Decimal numbers -/

def isDigit (c : UInt16) : Bool := 0x30 ≤ c && c ≤ 0x39

/-- What may follow a printed value. -/
def Delimited (rest : JsString) : Prop := ∀ c ∈ rest.head?, isDigit c = false

theorem isDigit_ofNat : ∀ digit < 10, isDigit (UInt16.ofNat (0x30 + digit)) = true := by
  decide

theorem isDigit_of_mem_decimal {n : ℕ} {c : UInt16} (h : c ∈ decimal n) :
    isDigit c = true := by
  rw [decimal] at h
  split at h
  · rw [List.mem_singleton.mp h]
    rfl
  · obtain ⟨digit, hdigit, rfl⟩ := List.mem_map.mp h
    exact isDigit_ofNat _ (Nat.digits_lt_base (by omega) (List.mem_reverse.mp hdigit))

theorem digit_injective : ∀ d < 10, ∀ e < 10,
    UInt16.ofNat (0x30 + d) = UInt16.ofNat (0x30 + e) → d = e := by
  decide

theorem map_digit_injective {l k : List ℕ} (hl : ∀ d ∈ l, d < 10) (hk : ∀ d ∈ k, d < 10)
    (h : (l.map fun digit => UInt16.ofNat (0x30 + digit)) =
      k.map fun digit => UInt16.ofNat (0x30 + digit)) : l = k := by
  induction l generalizing k with
  | nil => exact (List.map_eq_nil_iff.mp h.symm).symm
  | cons d l ih =>
      obtain ⟨e, k, rfl, hd, hrest⟩ := List.map_eq_cons_iff.mp h.symm
      rw [List.forall_mem_cons] at hl hk
      rw [digit_injective d hl.1 e hk.1 hd.symm, ih hl.2 hk.2 hrest.symm]

theorem mem_digits_lt (n : ℕ) : ∀ d ∈ (Nat.digits 10 n).reverse, d < 10 :=
  fun _ hd => Nat.digits_lt_base (by omega) (List.mem_reverse.mp hd)

/-- A number other than zero is not printed with a zero in front. -/
theorem decimal_ne_zero {n : ℕ} (hn : n ≠ 0) : decimal n ≠ [0x30] := by
  intro h
  rw [decimal, if_neg hn] at h
  have hdigits : (Nat.digits 10 n).reverse = [0] :=
    map_digit_injective (mem_digits_lt n) (by simp) h
  rw [List.reverse_eq_iff, List.reverse_singleton] at hdigits
  have hvalue := congrArg (Nat.ofDigits 10) hdigits
  rw [Nat.ofDigits_digits] at hvalue
  exact hn hvalue

theorem decimal_injective {n m : ℕ} (h : decimal n = decimal m) : n = m := by
  by_cases hn : n = 0
  · by_contra hm
    refine decimal_ne_zero (n := m) (fun h0 => hm (hn.trans h0.symm)) ?_
    rw [← h, decimal, if_pos hn]
  · by_cases hm : m = 0
    · refine absurd ?_ (decimal_ne_zero hn)
      rw [h, decimal, if_pos hm]
    · rw [decimal, decimal, if_neg hn, if_neg hm] at h
      have hdigits := map_digit_injective (mem_digits_lt n) (mem_digits_lt m) h
      exact Nat.digits_inj_iff.mp (List.reverse_injective hdigits)

theorem takeWhile_isDigit {n : ℕ} {rest : JsString} (h : Delimited rest) :
    (decimal n ++ rest).takeWhile isDigit = decimal n := by
  rw [List.takeWhile_append_of_pos fun c hc => isDigit_of_mem_decimal hc]
  cases rest with
  | nil => simp
  | cons c rest =>
      have hc : isDigit c = false := h c (by simp)
      rw [List.takeWhile_cons_of_neg (by simp [hc]), List.append_nil]

theorem decimal_append_inj {n m : ℕ} {r t : JsString} (hr : Delimited r) (ht : Delimited t)
    (h : decimal n ++ r = decimal m ++ t) : n = m ∧ r = t := by
  have hdecimal : decimal n = decimal m := by
    rw [← takeWhile_isDigit hr, h, takeWhile_isDigit ht]
  refine ⟨decimal_injective hdecimal, ?_⟩
  rw [hdecimal] at h
  exact List.append_cancel_left h

/-! ## Strings -/

def hexValue (c : UInt16) : ℕ := if c ≤ 0x39 then c.toNat - 0x30 else c.toNat - 0x57

theorem hexValue_hexDigit : ∀ n < 16, hexValue (hexDigit n) = n := by
  decide

/-- The code unit that the letter behind a backslash stands for. -/
def unescapeLetter (c : UInt16) : UInt16 :=
  if c == 0x62 then 0x08 else if c == 0x74 then 0x09 else if c == 0x6e then 0x0a
  else if c == 0x66 then 0x0c else if c == 0x72 then 0x0d else c

/-- The four hexadecimal digits of an escape. -/
def readHex : JsString → Option (UInt16 × JsString)
  | a :: b :: c :: d :: text =>
      some (UInt16.ofNat (hexValue a * 4096 + hexValue b * 256 + hexValue c * 16 + hexValue d),
        text)
  | _ => none

/-- The first code unit of the value that a text inside quotes stands for, and
the text behind it. -/
def readUnit : JsString → Option (UInt16 × JsString)
  | [] => none
  | [c] => if c = 0x5c then none else some (c, [])
  | c :: letter :: text =>
      if c = 0x5c then
        if letter = 0x75 then readHex text else some (unescapeLetter letter, text)
      else some (c, letter :: text)

theorem readUnit_plain {c : UInt16} {text : JsString} (h : c ≠ 0x5c) :
    readUnit (c :: text) = some (c, text) := by
  cases text with
  | nil => rw [readUnit, if_neg h]
  | cons letter text => rw [readUnit, if_neg h]

theorem readUnit_letter {letter : UInt16} {text : JsString} (h : letter ≠ 0x75) :
    readUnit (0x5c :: letter :: text) = some (unescapeLetter letter, text) := by
  rw [readUnit, if_pos rfl, if_neg h]

theorem readUnit_unicodeEscape {c : UInt16} {text : JsString} :
    readUnit (unicodeEscape c ++ text) = some (c, text) := by
  have hlt := c.toNat_lt
  have hvalue : c.toNat / 4096 * 4096 + c.toNat / 256 % 16 * 256 + c.toNat / 16 % 16 * 16 +
      c.toNat % 16 = c.toNat := by
    omega
  simp only [unicodeEscape, List.cons_append, List.nil_append, readUnit, if_pos, readHex]
  rw [hexValue_hexDigit _ (by omega), hexValue_hexDigit _ (by omega),
    hexValue_hexDigit _ (by omega), hexValue_hexDigit _ (by omega), hvalue, UInt16.ofNat_toNat]

/-- A printed code unit is read back, and it does not look like the end of the
string. -/
theorem readUnit_escapeUnit {c : UInt16} {text : JsString} :
    readUnit (escapeUnit c ++ text) = some (c, text) ∧
      (escapeUnit c ++ text).head? ≠ some 0x22 := by
  have hletter : ∀ letter : UInt16, letter ≠ 0x75 → unescapeLetter letter = c →
      readUnit ([0x5c, letter] ++ text) = some (c, text) ∧
        ([0x5c, letter] ++ text).head? ≠ some 0x22 := by
    rintro letter hne rfl
    exact ⟨readUnit_letter hne, by simp⟩
  simp only [escapeUnit, beq_iff_eq, Bool.or_eq_true]
  split
  · next h =>
      rcases h with rfl | rfl
      · exact hletter _ (by decide) (by decide)
      · exact hletter _ (by decide) (by decide)
  · next hquote =>
      rw [not_or] at hquote
      split
      · exact hletter _ (by decide) (by simp_all [unescapeLetter])
      split
      · exact hletter _ (by decide) (by simp_all [unescapeLetter])
      split
      · exact hletter _ (by decide) (by simp_all [unescapeLetter])
      split
      · exact hletter _ (by decide) (by simp_all [unescapeLetter])
      split
      · exact hletter _ (by decide) (by simp_all [unescapeLetter])
      split
      · exact ⟨readUnit_unicodeEscape, by simp [unicodeEscape]⟩
      · exact ⟨readUnit_plain hquote.2, by simpa using hquote.1⟩

/-- The text up to a quote stands for a value and leaves a rest. -/
inductive StringText : JsString → JsString → JsString → Prop where
  | quote (rest : JsString) : StringText (0x22 :: rest) [] rest
  | unit {text next value rest : JsString} {c : UInt16} (hquote : text.head? ≠ some 0x22)
      (hread : readUnit text = some (c, next)) (htail : StringText next value rest) :
      StringText text (c :: value) rest

theorem StringText.unique {text value value' rest rest' : JsString}
    (h : StringText text value rest) (h' : StringText text value' rest') :
    value = value' ∧ rest = rest' := by
  induction h generalizing value' with
  | quote rest =>
      cases h' with
      | quote => exact ⟨rfl, rfl⟩
      | unit hquote => simp at hquote
  | unit hquote hread _ ih =>
      cases h' with
      | quote => simp at hquote
      | unit _ hread' htail' =>
          rw [hread, Option.some.injEq, Prod.mk.injEq] at hread'
          obtain ⟨rfl, rfl⟩ := hread'
          obtain ⟨rfl, rfl⟩ := ih htail'
          exact ⟨rfl, rfl⟩

theorem stringText_escapeUnit {c : UInt16} {text value rest : JsString}
    (h : StringText text value rest) :
    StringText (escapeUnit c ++ text) (c :: value) rest :=
  .unit readUnit_escapeUnit.2 readUnit_escapeUnit.1 h

/-- A surrogate is neither the quote nor the backslash. -/
theorem stringText_surrogate {c : UInt16} {text value rest : JsString}
    (hc : 0xd800 ≤ c.toNat) (h : StringText text value rest) :
    StringText (c :: text) (c :: value) rest := by
  refine .unit ?_ (readUnit_plain ?_) h
  · rintro heq
    rw [List.head?_cons, Option.some.injEq] at heq
    subst heq
    exact absurd hc (by decide)
  · rintro rfl
    exact absurd hc (by decide)

theorem stringText_escape (s rest : JsString) :
    StringText (escape s ++ 0x22 :: rest) s rest := by
  fun_induction escape s with
  | case1 => exact .quote rest
  | case2 c => exact stringText_escapeUnit (.quote rest)
  | case3 c d tail hpair ih =>
      obtain ⟨hhigh, hlow⟩ := Bool.and_eq_true_iff.mp hpair
      have hh := isHighSurrogate_iff.mp hhigh
      have hl := isLowSurrogate_iff.mp hlow
      exact stringText_surrogate hh.1 (stringText_surrogate (by omega) ih)
  | case4 c d tail hpair ih =>
      rw [List.append_assoc]
      exact stringText_escapeUnit ih

theorem quote_append_inj {s s' r r' : JsString} (h : quote s ++ r = quote s' ++ r') :
    s = s' ∧ r = r' := by
  simp only [quote, List.cons_append, List.append_assoc, List.nil_append,
    List.cons.injEq, true_and] at h
  have htext := stringText_escape s r
  rw [h] at htext
  exact htext.unique (stringText_escape s' r')

/-! ## Values -/

/-- Induction over a value with its hypothesis for every item and every field. -/
theorem induction {motive : Json → Prop} (null : motive .null)
    (bool : ∀ b, motive (.bool b)) (num : ∀ n, motive (.num n)) (str : ∀ s, motive (.str s))
    (arr : ∀ items, (∀ item ∈ items, motive item) → motive (.arr items))
    (obj : ∀ fields, (∀ field ∈ fields, motive field.2) → motive (.obj fields)) (json : Json) :
    motive json := by
  refine Json.rec (motive_1 := motive) (motive_2 := fun items => ∀ item ∈ items, motive item)
    (motive_3 := fun fields => ∀ field ∈ fields, motive field.2)
    (motive_4 := fun field => motive field.2) null bool num str arr obj ?_ ?_ ?_ ?_ ?_ json
  · simp
  · intro item items hitem hitems
    exact List.forall_mem_cons.mpr ⟨hitem, hitems⟩
  · simp
  · intro field fields hfield hfields
    exact List.forall_mem_cons.mpr ⟨hfield, hfields⟩
  · intro _ value hvalue
    exact hvalue

/-- The form of a value, which the first code unit of its text shows. -/
def form : Json → ℕ
  | .null => 0
  | .bool true => 1
  | .bool false => 2
  | .num _ => 3
  | .str _ => 4
  | .arr _ => 5
  | .obj _ => 6

def formOfHead (c : UInt16) : ℕ :=
  if c = 0x6e then 0 else if c = 0x74 then 1 else if c = 0x66 then 2
  else if c = 0x22 then 4 else if c = 0x5b then 5 else if c = 0x7b then 6
  else if isDigit c then 3 else 7

theorem formOfHead_of_isDigit {c : UInt16} (h : isDigit c = true) : formOfHead c = 3 := by
  have hne : ∀ d : UInt16, isDigit d = false → c ≠ d := by
    rintro d hd rfl
    rw [hd] at h
    cases h
  rw [formOfHead, if_neg (hne _ rfl), if_neg (hne _ rfl), if_neg (hne _ rfl),
    if_neg (hne _ rfl), if_neg (hne _ rfl), if_neg (hne _ rfl), if_pos h]

theorem decimal_ne_nil (n : ℕ) : decimal n ≠ [] := by
  rw [decimal]
  split
  · simp
  · next h => simpa [Nat.digits_ne_nil_iff_ne_zero] using h

theorem stringify_head (json : Json) (rest : JsString) :
    (stringify json ++ rest).head?.map formOfHead = some (form json) := by
  cases json with
  | null => rfl
  | bool b => cases b <;> rfl
  | num n =>
      obtain ⟨c, text, htext⟩ := List.exists_cons_of_ne_nil (decimal_ne_nil n)
      have hc : isDigit c = true := isDigit_of_mem_decimal (n := n) (by simp [htext])
      simp only [stringify, htext, List.cons_append, List.head?_cons, Option.map_some,
        formOfHead_of_isDigit hc, form]
  | str s => rfl
  | arr items => rfl
  | obj fields => rfl

theorem form_eq_of_append_eq {a b : Json} {r t : JsString}
    (h : stringify a ++ r = stringify b ++ t) : form a = form b := by
  have ha := stringify_head a r
  rw [h, stringify_head b t, Option.some.injEq] at ha
  exact ha.symm

/-- No value is printed with a closing bracket in front. -/
theorem stringify_append_ne_cons {json : Json} {c : UInt16} {r t : JsString}
    (hc : formOfHead c = 7) : stringify json ++ r ≠ c :: t := by
  intro h
  have hhead := stringify_head json r
  rw [h, List.head?_cons, Option.map_some, hc, Option.some.injEq] at hhead
  cases json with
  | bool b => cases b <;> cases hhead
  | _ => cases hhead

theorem Delimited.cons {c : UInt16} (rest : JsString) (h : isDigit c = false) :
    Delimited (c :: rest) := by
  intro d hd
  rw [List.head?_cons, Option.mem_some_iff] at hd
  exact hd ▸ h

/-- A value that is printed at the front of a text, and the rest behind it, are
determined by the text. -/
def Determined (a : Json) : Prop :=
  ∀ (b : Json) (r t : JsString), Delimited r → Delimited t →
    stringify a ++ r = stringify b ++ t → a = b ∧ r = t

/-- What is printed behind the first item of an array. -/
def stringifyMore : List Json → JsString
  | [] => []
  | items => 0x2c :: stringifyItems items

theorem stringifyItems_cons (item : Json) (items : List Json) :
    stringifyItems (item :: items) = stringify item ++ stringifyMore items := by
  cases items with
  | nil => simp [stringifyItems, stringifyMore]
  | cons next items => simp [stringifyItems, stringifyMore]

theorem delimited_stringifyMore (items : List Json) (rest : JsString) :
    Delimited (stringifyMore items ++ 0x5d :: rest) := by
  cases items with
  | nil => exact .cons _ rfl
  | cons item items => exact .cons _ rfl

theorem stringifyItems_append_inj {items items' : List Json} {r t : JsString}
    (hitems : ∀ item ∈ items, Determined item)
    (h : stringifyItems items ++ 0x5d :: r = stringifyItems items' ++ 0x5d :: t) :
    items = items' ∧ r = t := by
  induction items generalizing items' with
  | nil =>
      cases items' with
      | nil => exact ⟨rfl, List.cons.inj h |>.2⟩
      | cons item' rest' =>
          rw [stringifyItems_cons, List.append_assoc] at h
          exact absurd h.symm (stringify_append_ne_cons rfl)
  | cons item rest ih =>
      rw [List.forall_mem_cons] at hitems
      rw [stringifyItems_cons, List.append_assoc] at h
      cases items' with
      | nil => exact absurd h (stringify_append_ne_cons rfl)
      | cons item' rest' =>
          rw [stringifyItems_cons, List.append_assoc] at h
          obtain ⟨rfl, hmore⟩ := hitems.1 _ _ _ (delimited_stringifyMore _ _)
            (delimited_stringifyMore _ _) h
          cases rest with
          | nil =>
              cases rest' with
              | nil => exact ⟨rfl, List.cons.inj hmore |>.2⟩
              | cons _ _ => cases (List.cons.inj hmore).1
          | cons _ _ =>
              cases rest' with
              | nil => cases (List.cons.inj hmore).1
              | cons _ _ =>
                  obtain ⟨hrest, hr⟩ := ih hitems.2 (List.cons.inj hmore).2
                  exact ⟨by rw [hrest], hr⟩

/-- What is printed behind the first field of an object. -/
def stringifyMoreFields : List (JsString × Json) → JsString
  | [] => []
  | fields => 0x2c :: stringifyFields fields

theorem stringifyFields_cons (field : JsString × Json) (fields : List (JsString × Json)) :
    stringifyFields (field :: fields) =
      quote field.1 ++ 0x3a :: (stringify field.2 ++ stringifyMoreFields fields) := by
  cases fields with
  | nil => simp [stringifyFields, stringifyMoreFields]
  | cons next fields => simp [stringifyFields, stringifyMoreFields]

theorem delimited_stringifyMoreFields (fields : List (JsString × Json)) (rest : JsString) :
    Delimited (stringifyMoreFields fields ++ 0x7d :: rest) := by
  cases fields with
  | nil => exact .cons _ rfl
  | cons field fields => exact .cons _ rfl

theorem stringifyFields_append_inj {fields fields' : List (JsString × Json)} {r t : JsString}
    (hfields : ∀ field ∈ fields, Determined field.2)
    (h : stringifyFields fields ++ 0x7d :: r = stringifyFields fields' ++ 0x7d :: t) :
    fields = fields' ∧ r = t := by
  have happend : ∀ (field : JsString × Json) (rest : List (JsString × Json)) (r : JsString),
      stringifyFields (field :: rest) ++ 0x7d :: r = quote field.1 ++
        0x3a :: (stringify field.2 ++ (stringifyMoreFields rest ++ 0x7d :: r)) := by
    intro field rest r
    simp [stringifyFields_cons]
  induction fields generalizing fields' with
  | nil =>
      cases fields' with
      | nil => exact ⟨rfl, List.cons.inj h |>.2⟩
      | cons field' rest' =>
          rw [happend] at h
          cases (List.cons.inj h).1
  | cons field rest ih =>
      rw [List.forall_mem_cons] at hfields
      rw [happend] at h
      cases fields' with
      | nil => cases (List.cons.inj h).1
      | cons field' rest' =>
          rw [happend] at h
          obtain ⟨hkey, htail⟩ := quote_append_inj h
          obtain ⟨hvalue, hmore⟩ := hfields.1 _ _ _ (delimited_stringifyMoreFields _ _)
            (delimited_stringifyMoreFields _ _) (List.cons.inj htail).2
          obtain rfl : field = field' := Prod.ext hkey hvalue
          cases rest with
          | nil =>
              cases rest' with
              | nil => exact ⟨rfl, List.cons.inj hmore |>.2⟩
              | cons _ _ => cases (List.cons.inj hmore).1
          | cons _ _ =>
              cases rest' with
              | nil => cases (List.cons.inj hmore).1
              | cons _ _ =>
                  obtain ⟨hrest, hr⟩ := ih hfields.2 (List.cons.inj hmore).2
                  exact ⟨by rw [hrest], hr⟩

theorem determined (a : Json) : Determined a := by
  induction a using Json.induction with
  | null =>
      intro b r t _ _ h
      have hform := form_eq_of_append_eq h
      cases b with
      | null => exact ⟨rfl, List.append_cancel_left h⟩
      | bool b => cases b <;> cases hform
      | _ => cases hform
  | bool a =>
      intro b r t _ _ h
      have hform := form_eq_of_append_eq h
      cases b with
      | bool b =>
          cases a <;> cases b
          · exact ⟨rfl, List.append_cancel_left h⟩
          · cases hform
          · cases hform
          · exact ⟨rfl, List.append_cancel_left h⟩
      | _ => cases a <;> cases hform
  | num n =>
      intro b r t hr ht h
      have hform := form_eq_of_append_eq h
      cases b with
      | num m =>
          obtain ⟨rfl, hrest⟩ := decimal_append_inj hr ht h
          exact ⟨rfl, hrest⟩
      | bool b => cases b <;> cases hform
      | _ => cases hform
  | str s =>
      intro b r t _ _ h
      have hform := form_eq_of_append_eq h
      cases b with
      | str s' =>
          obtain ⟨rfl, hrest⟩ := quote_append_inj h
          exact ⟨rfl, hrest⟩
      | bool b => cases b <;> cases hform
      | _ => cases hform
  | arr items hitems =>
      intro b r t _ _ h
      have hform := form_eq_of_append_eq h
      cases b with
      | arr items' =>
          simp only [stringify, List.cons_append, List.append_assoc, List.nil_append,
            List.cons.injEq, true_and] at h
          obtain ⟨rfl, hrest⟩ := stringifyItems_append_inj hitems h
          exact ⟨rfl, hrest⟩
      | bool b => cases b <;> cases hform
      | _ => cases hform
  | obj fields hfields =>
      intro b r t _ _ h
      have hform := form_eq_of_append_eq h
      cases b with
      | obj fields' =>
          simp only [stringify, List.cons_append, List.append_assoc, List.nil_append,
            List.cons.injEq, true_and] at h
          obtain ⟨rfl, hrest⟩ := stringifyFields_append_inj hfields h
          exact ⟨rfl, hrest⟩
      | bool b => cases b <;> cases hform
      | _ => cases hform

/-- A value is determined by its text. -/
theorem stringify_injective : Function.Injective stringify := by
  intro a b h
  have hnil : Delimited [] := by
    intro c hc
    cases hc
  refine (determined a b [] [] hnil hnil ?_).1
  rw [h]

/-! ## Text without escapes -/

/-- An ASCII character that a string is printed with as it is. -/
def isPlain (c : UInt16) : Bool := 0x20 ≤ c && c < 0x80 && c != 0x22 && c != 0x5c

theorem escapeUnit_of_isPlain {c : UInt16} (h : isPlain c = true) : escapeUnit c = [c] := by
  simp only [isPlain, Bool.and_eq_true, decide_eq_true_eq, bne_iff_ne,
    UInt16.le_iff_toNat_le, UInt16.lt_iff_toNat_lt] at h
  obtain ⟨⟨⟨hle, hlt⟩, hquote⟩, hslash⟩ := h
  have hcontrol : ∀ d : UInt16, d < 0x20 → c ≠ d := by
    rintro d hd rfl
    exact absurd (UInt16.lt_iff_toNat_lt.mp hd) (Nat.not_lt.mpr hle)
  have hsurrogate : ¬ (c < 0x20 || isHighSurrogate c || isLowSurrogate c) = true := by
    simp only [isHighSurrogate, isLowSurrogate, Bool.or_eq_true, Bool.and_eq_true,
      decide_eq_true_eq, UInt16.le_iff_toNat_le, UInt16.lt_iff_toNat_lt]
    simp only [UInt16.reduceToNat] at hle hlt ⊢
    omega
  simp only [escapeUnit, beq_iff_eq, Bool.or_eq_true, hquote, hslash, or_self, if_false,
    hcontrol 0x08 (by decide), hcontrol 0x09 (by decide), hcontrol 0x0a (by decide),
    hcontrol 0x0c (by decide), hcontrol 0x0d (by decide)]
  simp only [Bool.or_eq_true] at hsurrogate
  rw [if_neg hsurrogate]

theorem escape_of_isPlain {s : JsString} (h : ∀ c ∈ s, isPlain c = true) : escape s = s := by
  fun_induction escape s with
  | case1 => rfl
  | case2 c => exact escapeUnit_of_isPlain (h c List.mem_cons_self)
  | case3 c d rest hpair ih =>
      have hrest := ih fun e he => h e (List.mem_cons_of_mem _ (List.mem_cons_of_mem _ he))
      rw [hrest]
  | case4 c d rest _ ih =>
      rw [escapeUnit_of_isPlain (h c List.mem_cons_self),
        ih fun e he => h e (List.mem_cons_of_mem _ he)]
      rfl

theorem length_quote_of_isPlain {s : JsString} (h : ∀ c ∈ s, isPlain c = true) :
    (quote s).length = s.length + 2 := by
  rw [quote, escape_of_isPlain h]
  simp

/-! ## Lengths -/

theorem length_le_escape (s : JsString) : s.length ≤ (escape s).length := by
  have hunit : ∀ c, 1 ≤ (escapeUnit c).length := by
    intro c
    unfold escapeUnit
    repeat' split
    all_goals simp [unicodeEscape]
  fun_induction escape s with
  | case1 => exact le_rfl
  | case2 c => exact hunit c
  | case3 c d rest hpair ih =>
      simp only [List.length_cons]
      omega
  | case4 c d rest hpair ih =>
      have hc := hunit c
      simp only [List.length_append, List.length_cons] at ih ⊢
      omega

/-- The text of a string is longer than the string. -/
theorem length_lt_stringify_str (s : JsString) : s.length < (stringify (.str s)).length := by
  have h := length_le_escape s
  simp only [stringify, quote, List.length_append, List.length_cons]
  omega

theorem length_le_stringifyItems {item : Json} {items : List Json} (h : item ∈ items) :
    (stringify item).length ≤ (stringifyItems items).length := by
  induction items with
  | nil => cases h
  | cons first items ih =>
      rw [stringifyItems_cons, List.length_append]
      rcases List.mem_cons.mp h with rfl | h
      · exact Nat.le_add_right _ _
      · have hrest := ih h
        cases items with
        | nil => cases h
        | cons next items =>
            simp only [stringifyMore, List.length_cons]
            omega

/-- The text of an item is part of the text of its array. -/
theorem length_lt_stringify_arr {item : Json} {items : List Json} (h : item ∈ items) :
    (stringify item).length < (stringify (.arr items)).length := by
  have hitems := length_le_stringifyItems h
  simp only [stringify, List.length_append, List.length_cons]
  omega

theorem length_le_stringifyFields {key : JsString} {value : Json}
    {fields : List (JsString × Json)} (h : (key, value) ∈ fields) :
    (stringify value).length ≤ (stringifyFields fields).length := by
  induction fields with
  | nil => cases h
  | cons first fields ih =>
      rw [stringifyFields_cons, List.length_append, List.length_cons, List.length_append]
      rcases List.mem_cons.mp h with rfl | h
      · dsimp only
        omega
      · have hrest := ih h
        cases fields with
        | nil => cases h
        | cons next fields =>
            simp only [stringifyMoreFields, List.length_cons]
            omega

/-- The text of a field is part of the text of its object. -/
theorem length_lt_stringify_obj {key : JsString} {value : Json}
    {fields : List (JsString × Json)} (h : (key, value) ∈ fields) :
    (stringify value).length < (stringify (.obj fields)).length := by
  have hfields := length_le_stringifyFields h
  simp only [stringify, List.length_append, List.length_cons]
  omega

/-! ## Lone surrogates -/

theorem isWellFormed_of_lt {s : JsString} (h : ∀ c ∈ s, c < 0xd800) :
    isWellFormed s = true := by
  induction s with
  | nil => rfl
  | cons c rest ih =>
      rw [List.forall_mem_cons] at h
      have hc : isWellFormed [c] = true := by
        have hlt := UInt16.lt_iff_toNat_lt.mp h.1
        have hhigh := mt (isHighSurrogate_iff (c := c)).mp (by simp at hlt; omega)
        have hlow := mt (isLowSurrogate_iff (c := c)).mp (by simp at hlt; omega)
        simp only [Bool.not_eq_true] at hhigh hlow
        simp [isWellFormed, hhigh, hlow]
      exact isWellFormed_append hc (ih h.2)

theorem hexDigit_lt : ∀ n < 16, hexDigit n < 0xd800 := by
  decide

theorem isWellFormed_escapeUnit (c : UInt16) : isWellFormed (escapeUnit c) = true := by
  have hlt := c.toNat_lt
  have hletter : ∀ letter : UInt16, letter < 0xd800 → isWellFormed [0x5c, letter] = true := by
    intro letter h
    exact isWellFormed_of_lt (by simpa using h)
  simp only [escapeUnit, beq_iff_eq, Bool.or_eq_true]
  split
  · next h => rcases h with rfl | rfl <;> exact hletter _ (by decide)
  split
  · exact hletter _ (by decide)
  split
  · exact hletter _ (by decide)
  split
  · exact hletter _ (by decide)
  split
  · exact hletter _ (by decide)
  split
  · exact hletter _ (by decide)
  split
  · apply isWellFormed_of_lt
    simp only [unicodeEscape, List.forall_mem_cons, List.not_mem_nil, false_implies,
      implies_true, and_true]
    exact ⟨by decide, by decide, hexDigit_lt _ (by omega), hexDigit_lt _ (by omega),
      hexDigit_lt _ (by omega), hexDigit_lt _ (by omega)⟩
  · next h =>
      simp only [not_or, Bool.not_eq_true] at h
      simp [isWellFormed, h.1.2, h.2]

theorem isWellFormed_escape (s : JsString) : isWellFormed (escape s) = true := by
  fun_induction escape s with
  | case1 => rfl
  | case2 c => exact isWellFormed_escapeUnit c
  | case3 c d rest hpair ih => rwa [isWellFormed, if_pos hpair]
  | case4 c d rest _ ih => exact isWellFormed_append (isWellFormed_escapeUnit c) ih

theorem isWellFormed_cons {c : UInt16} {s : JsString} (hc : c < 0xd800)
    (hs : isWellFormed s = true) : isWellFormed (c :: s) = true :=
  isWellFormed_append (s := [c]) (isWellFormed_of_lt (by simpa using hc)) hs

theorem isWellFormed_quote (s : JsString) : isWellFormed (quote s) = true :=
  isWellFormed_append (isWellFormed_cons (by decide) (isWellFormed_escape s)) (by decide)

theorem digit_lt {c : UInt16} (h : isDigit c = true) : c < 0xd800 := by
  simp only [isDigit, Bool.and_eq_true, decide_eq_true_eq, UInt16.le_iff_toNat_le] at h
  rw [UInt16.lt_iff_toNat_lt]
  exact lt_of_le_of_lt h.2 (by decide)

/-- The text of a value has no lone surrogates. -/
theorem isWellFormed_stringify (json : Json) : isWellFormed (stringify json) = true := by
  induction json using Json.induction with
  | null => decide
  | bool b => cases b <;> decide
  | num n => exact isWellFormed_of_lt fun c hc => digit_lt (isDigit_of_mem_decimal hc)
  | str s => exact isWellFormed_quote s
  | arr items hitems =>
      have hall : isWellFormed (stringifyItems items) = true := by
        induction items with
        | nil => rfl
        | cons item rest ih =>
            rw [List.forall_mem_cons] at hitems
            rw [stringifyItems_cons]
            refine isWellFormed_append hitems.1 ?_
            cases rest with
            | nil => rfl
            | cons _ _ => exact isWellFormed_cons (by decide) (ih hitems.2)
      exact isWellFormed_append (isWellFormed_cons (by decide) hall) (by decide)
  | obj fields hfields =>
      have hall : isWellFormed (stringifyFields fields) = true := by
        induction fields with
        | nil => rfl
        | cons field rest ih =>
            rw [List.forall_mem_cons] at hfields
            rw [stringifyFields_cons]
            refine isWellFormed_append (isWellFormed_quote _)
              (isWellFormed_cons (by decide) (isWellFormed_append hfields.1 ?_))
            cases rest with
            | nil => rfl
            | cons _ _ => exact isWellFormed_cons (by decide) (ih hfields.2)
      exact isWellFormed_append (isWellFormed_cons (by decide) hall) (by decide)

/-- A value is determined by the bytes of its text. -/
theorem utf8Encode_stringify_injective :
    Function.Injective fun json => utf8Encode (stringify json) := by
  intro a b h
  exact stringify_injective
    (utf8Encode_injective (isWellFormed_stringify a) (isWellFormed_stringify b) h)

end Json

end Foundation
