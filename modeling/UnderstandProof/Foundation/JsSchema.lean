import UnderstandProof.Foundation.Except
import UnderstandProof.Foundation.JsValue

/-!
# Schemas of values

How a schema reads a value, and how a value that was read is written again. A codec is a reader
with a writer that gives back the canonical value of what was read; what two codecs share survives
an optional field, an array, a further check, and an object with codecs for its fields.
-/

namespace Foundation

namespace JsValue

/-! ## Readers -/

section Readers

variable {α : Type}

/-- `z.object(…).strict()`: the members of an object that has no others. -/
def strictFields (names : List JsString) : JsValue → Option (List (JsString × JsValue))
  | obj fields =>
      if (fields.map Prod.fst).Nodup ∧ ∀ field ∈ fields, field.1 ∈ names then some fields else none
  | _ => none

/-- `z.string()` with a check. -/
def text (accepts : JsString → Bool) : JsValue → Option JsString
  | str s => if accepts s then some s else none
  | _ => none

/-- `z.number().int().min(minimum).max(maximum)`, for a bound that is no negative number. -/
def natural (minimum maximum : ℕ) : JsValue → Option ℕ
  | num n => if minimum ≤ n ∧ n ≤ maximum then some n else none
  | _ => none

/-- `z.boolean()` -/
def boolean : JsValue → Option Bool
  | bool b => some b
  | _ => none

/-- `z.literal` of a text. -/
def literal (s : JsString) : JsValue → Option Unit
  | str s' => if s' = s then some () else none
  | _ => none

/-- `z.literal` of a Boolean. -/
def literalBool (b : Bool) : JsValue → Option Unit
  | bool b' => if b' = b then some () else none
  | _ => none

/-- `z.enum` of the texts of some values. -/
def oneOf (all : List α) (name : α → JsString) : JsValue → Option α
  | str s => all.find? fun a => name a == s
  | _ => none

/-- `.nullable()` -/
def nullable (read : JsValue → Option α) : JsValue → Option (Option α)
  | null => some none
  | value => (read value).map some

/-- `.optional()` -/
def optional (read : JsValue → Option α) : JsValue → Option (Option α)
  | undefined => some none
  | value => (read value).map some

/-- `z.array(read).min(minimum).max(maximum)` -/
def array (minimum maximum : ℕ) (read : JsValue → Option α) : JsValue → Option (List α)
  | arr items => if minimum ≤ items.length ∧ items.length ≤ maximum then items.mapM read else none
  | _ => none

end Readers

/-! ## Writers -/

section Writers

variable {α : Type}

def ofNullable (write : α → JsValue) : Option α → JsValue
  | none => null
  | some a => write a

def ofOptional (write : α → JsValue) : Option α → JsValue
  | none => undefined
  | some a => write a

def ofArray (write : α → JsValue) (items : List α) : JsValue := arr (items.map write)

def ofText (s : JsString) : JsValue := str s

/-- An object literal: names with their values. -/
def record (names : List JsString) (values : List JsValue) : JsValue := obj (names.zip values)

end Writers

/-! ## Codecs -/

section Codecs

variable {α β : Type} {read : JsValue → Option α} {write : α → JsValue}

/-- The schema of a member: what it reads is written with the same contribution to the object. -/
structure MemberCodec (read : JsValue → Option α) (write : α → JsValue) : Prop where
  plain : ∀ {value a}, read value = some a → value.Plain
  member : ∀ {value a}, read value = some a → value.member = (write a).member
  plain_write : ∀ a, (write a).Plain
  injective : ∀ {a b}, (write a).member = (write b).member → a = b

/-- The schema of a value that is not undefined. -/
structure Codec (read : JsValue → Option α) (write : α → JsValue) : Prop where
  defined : ∀ {value a}, read value = some a → value.isUndefined = false
  plain : ∀ {value a}, read value = some a → value.Plain
  canonical : ∀ {value a}, read value = some a → value.canonical = (write a).canonical
  defined_write : ∀ a, (write a).isUndefined = false
  plain_write : ∀ a, (write a).Plain
  injective : ∀ {a b}, (write a).canonical = (write b).canonical → a = b

theorem member_of_defined {value : JsValue} (h : value.isUndefined = false) :
    value.member = some value.canonical := by
  simp [JsValue.member, h]

theorem member_str_inj {s s' : JsString} (h : (str s).member = (str s').member) : s = s' :=
  Json.str.inj (Option.some.inj h)

theorem member_num_inj {n n' : ℕ} (h : (num n).member = (num n').member) : n = n' :=
  Json.num.inj (Option.some.inj h)

theorem member_bool_inj {b b' : Bool} (h : (bool b).member = (bool b').member) : b = b' :=
  Json.bool.inj (Option.some.inj h)

theorem Codec.memberCodec (h : Codec read write) : MemberCodec read write where
  plain := h.plain
  member hread := by
    rw [member_of_defined (h.defined hread), member_of_defined (h.defined_write _),
      h.canonical hread]
  plain_write := h.plain_write
  injective {a b} heq := by
    rw [member_of_defined (h.defined_write a), member_of_defined (h.defined_write b)] at heq
    exact h.injective (Option.some.inj heq)

theorem Codec.optional (h : Codec read write) :
    MemberCodec (optional read) (ofOptional write) where
  plain {value a} hread := by
    cases value with
    | undefined => exact .undefined
    | _ =>
        obtain ⟨b, hb, -⟩ := Option.map_eq_some_iff.mp hread
        exact h.plain hb
  member {value a} hread := by
    have hsome : ∀ {value' : JsValue}, (read value').map some = some a →
        value'.member = (ofOptional write a).member := by
      intro value' hread'
      obtain ⟨b, hb, rfl⟩ := Option.map_eq_some_iff.mp hread'
      exact h.memberCodec.member hb
    cases value with
    | undefined =>
        obtain rfl := Option.some.inj hread
        rfl
    | _ => exact hsome hread
  plain_write a := by
    cases a with
    | none => exact .undefined
    | some a => exact h.plain_write a
  injective {a b} heq := by
    have hwrite : ∀ a, (write a).member ≠ none := by
      intro a
      rw [member_of_defined (h.defined_write a)]
      exact Option.some_ne_none _
    cases a with
    | none =>
        cases b with
        | none => rfl
        | some b => exact absurd heq.symm (hwrite b)
    | some a =>
        cases b with
        | none => exact absurd heq (hwrite a)
        | some b => exact congrArg some (h.memberCodec.injective heq)

theorem text_eq_some {accepts : JsString → Bool} {value : JsValue} {s : JsString} :
    text accepts value = some s ↔ value = .str s ∧ accepts s = true := by
  cases value <;> simp [text]
  constructor
  · rintro ⟨h, rfl⟩
    exact ⟨rfl, h⟩
  · rintro ⟨rfl, h⟩
    exact ⟨h, rfl⟩

theorem natural_eq_some {minimum maximum n : ℕ} {value : JsValue} :
    natural minimum maximum value = some n ↔ value = .num n ∧ minimum ≤ n ∧ n ≤ maximum := by
  cases value <;> simp [natural]
  constructor
  · rintro ⟨h, rfl⟩
    exact ⟨rfl, h⟩
  · rintro ⟨rfl, h⟩
    exact ⟨h, rfl⟩

theorem codec_text (accepts : JsString → Bool) : Codec (text accepts) ofText where
  defined hread := by
    obtain ⟨rfl, -⟩ := text_eq_some.mp hread
    rfl
  plain hread := by
    obtain ⟨rfl, -⟩ := text_eq_some.mp hread
    exact .str _
  canonical hread := by
    obtain ⟨rfl, -⟩ := text_eq_some.mp hread
    rfl
  defined_write _ := rfl
  plain_write s := .str s
  injective heq := Json.str.inj heq

theorem codec_natural (minimum maximum : ℕ) : Codec (natural minimum maximum) .num where
  defined hread := by
    obtain ⟨rfl, -⟩ := natural_eq_some.mp hread
    rfl
  plain hread := by
    obtain ⟨rfl, -⟩ := natural_eq_some.mp hread
    exact .num _
  canonical hread := by
    obtain ⟨rfl, -⟩ := natural_eq_some.mp hread
    rfl
  defined_write _ := rfl
  plain_write n := .num n
  injective heq := Json.num.inj heq

theorem codec_boolean : Codec boolean .bool where
  defined {value a} hread := by
    cases value <;> first | rfl | cases hread
  plain {value a} hread := by
    cases value with
    | bool b => exact .bool b
    | _ => cases hread
  canonical {value a} hread := by
    cases value with
    | bool b =>
        obtain rfl := Option.some.inj hread
        rfl
    | _ => cases hread
  defined_write _ := rfl
  plain_write b := .bool b
  injective heq := Json.bool.inj heq

theorem literal_eq_some {s : JsString} {value : JsValue} {u : Unit} :
    literal s value = some u ↔ value = .str s := by
  cases value <;> simp [literal]

theorem codec_literal (s : JsString) : Codec (literal s) fun _ => .str s where
  defined hread := by
    obtain rfl := literal_eq_some.mp hread
    rfl
  plain hread := by
    obtain rfl := literal_eq_some.mp hread
    exact .str s
  canonical hread := by
    obtain rfl := literal_eq_some.mp hread
    rfl
  defined_write _ := rfl
  plain_write _ := .str s
  injective _ := rfl

theorem oneOf_eq_some {all : List α} {name : α → JsString} {value : JsValue} {a : α}
    (h : oneOf all name value = some a) : value = .str (name a) := by
  cases value with
  | str s =>
      have hs := List.find?_some h
      rw [beq_iff_eq.mp hs]
  | _ => cases h

/-- An enumeration whose texts are different. -/
theorem codec_oneOf {all : List α} {name : α → JsString} (hall : ∀ a, a ∈ all)
    (hnodup : (all.map name).Nodup) : Codec (oneOf all name) fun a => .str (name a) where
  defined hread := by
    obtain rfl := oneOf_eq_some hread
    rfl
  plain hread := by
    obtain rfl := oneOf_eq_some hread
    exact .str _
  canonical hread := by
    obtain rfl := oneOf_eq_some hread
    rfl
  defined_write _ := rfl
  plain_write a := .str (name a)
  injective {a b} heq := List.inj_on_of_nodup_map hnodup (hall a) (hall b) (Json.str.inj heq)

/-- A reader with a further check. -/
theorem Codec.filter (h : Codec read write) (p : α → Bool) :
    Codec (fun value => (read value).filter p) write where
  defined hread := h.defined (Option.mem_filter_iff.mp hread).1
  plain hread := h.plain (Option.mem_filter_iff.mp hread).1
  canonical hread := h.canonical (Option.mem_filter_iff.mp hread).1
  defined_write := h.defined_write
  plain_write := h.plain_write
  injective := h.injective

/-- A value that may be null instead, where the writer never writes null. -/
theorem Codec.nullable (h : Codec read write) (hnull : ∀ a, (write a).canonical ≠ .null) :
    Codec (nullable read) (ofNullable write) where
  defined {value a} hread := by
    cases value with
    | undefined =>
        obtain ⟨b, hb, -⟩ := Option.map_eq_some_iff.mp hread
        exact h.defined hb
    | _ => rfl
  plain {value a} hread := by
    cases value with
    | null => exact .null
    | _ =>
        obtain ⟨b, hb, -⟩ := Option.map_eq_some_iff.mp hread
        exact h.plain hb
  canonical {value a} hread := by
    have hsome : ∀ {value' : JsValue}, (read value').map some = some a →
        value'.canonical = (ofNullable write a).canonical := by
      intro value' hread'
      obtain ⟨b, hb, rfl⟩ := Option.map_eq_some_iff.mp hread'
      exact h.canonical hb
    cases value with
    | null =>
        obtain rfl := Option.some.inj hread
        rfl
    | _ => exact hsome hread
  defined_write a := by
    cases a with
    | none => rfl
    | some a => exact h.defined_write a
  plain_write a := by
    cases a with
    | none => exact .null
    | some a => exact h.plain_write a
  injective {a b} heq := by
    cases a with
    | none =>
        cases b with
        | none => rfl
        | some b => exact absurd heq.symm (hnull b)
    | some a =>
        cases b with
        | none => exact absurd heq (hnull a)
        | some b => exact congrArg some (h.injective heq)

/-! ### Arrays -/

theorem canonicalItems_eq_map (items : List JsValue) :
    canonicalItems items = items.map canonical := by
  induction items with
  | nil => rfl
  | cons item items ih => rw [canonicalItems, ih, List.map_cons]

theorem array_eq_some {minimum maximum : ℕ} {value : JsValue} {as : List α}
    (h : array minimum maximum read value = some as) :
    ∃ items, value = .arr items ∧ (minimum ≤ items.length ∧ items.length ≤ maximum) ∧
      items.mapM read = some as := by
  cases value with
  | arr items =>
      obtain ⟨hlength, hitems⟩ := Option.ite_none_right_eq_some.mp h
      exact ⟨items, rfl, hlength, hitems⟩
  | _ => cases h

theorem mapM_read_cons {item : JsValue} {items : List JsValue} {as : List α}
    (h : (item :: items).mapM read = some as) :
    ∃ b bs, as = b :: bs ∧ read item = some b ∧ items.mapM read = some bs := by
  rw [List.mapM_cons] at h
  obtain ⟨b, hb, h⟩ := Option.bind_eq_some_iff.mp h
  obtain ⟨bs, hbs, h⟩ := Option.bind_eq_some_iff.mp h
  exact ⟨b, bs, (Option.some.inj h).symm, hb, hbs⟩

theorem Codec.items (h : Codec read write) {items : List JsValue} {as : List α}
    (hread : items.mapM read = some as) :
    (∀ item ∈ items, item.Plain) ∧
      items.map JsValue.canonical = as.map (fun a => (write a).canonical) := by
  induction items generalizing as with
  | nil =>
      obtain rfl := Option.some.inj hread
      exact ⟨fun _ hitem => absurd hitem List.not_mem_nil, rfl⟩
  | cons item items ih =>
      obtain ⟨b, bs, rfl, hb, hbs⟩ := mapM_read_cons hread
      obtain ⟨hplain, hcanonical⟩ := ih hbs
      refine ⟨List.forall_mem_cons.mpr ⟨h.plain hb, hplain⟩, ?_⟩
      rw [List.map_cons, List.map_cons, h.canonical hb, hcanonical]

theorem canonical_ofArray (write : α → JsValue) (as : List α) :
    (ofArray write as).canonical = .arr (as.map fun a => (write a).canonical) := by
  simp only [ofArray, canonical, canonicalItems_eq_map, List.map_map]
  rfl

theorem Codec.array (h : Codec read write) (minimum maximum : ℕ) :
    Codec (array minimum maximum read) (ofArray write) where
  defined hread := by
    obtain ⟨items, rfl, -, -⟩ := array_eq_some hread
    rfl
  plain hread := by
    obtain ⟨items, rfl, -, hitems⟩ := array_eq_some hread
    exact .arr (h.items hitems).1
  canonical hread := by
    obtain ⟨items, rfl, -, hitems⟩ := array_eq_some hread
    rw [canonical_ofArray, ← (h.items hitems).2, ← canonicalItems_eq_map]
    rfl
  defined_write _ := rfl
  plain_write as := by
    refine .arr fun item hitem => ?_
    obtain ⟨a, -, rfl⟩ := List.mem_map.mp hitem
    exact h.plain_write a
  injective {as bs} heq := by
    rw [canonical_ofArray, canonical_ofArray] at heq
    exact List.map_injective_iff.mpr (fun _ _ => h.injective) (Json.arr.inj heq)

/-! ### Objects -/

theorem strictFields_eq_some {names : List JsString} {value : JsValue}
    {fields : List (JsString × JsValue)} :
    strictFields names value = some fields ↔ value = .obj fields ∧ Strict names fields := by
  cases value <;> simp [strictFields]
  constructor
  · rintro ⟨h, rfl⟩
    exact ⟨rfl, h.1, fun field hfield => h.2 field.1 field.2 hfield⟩
  · rintro ⟨rfl, h⟩
    exact ⟨⟨h.nodup, fun key value hfield => h.subset _ hfield⟩, rfl⟩

theorem strict_zip {names : List JsString} (hnames : names.Nodup) {values : List JsValue}
    (hlength : names.length = values.length) : Strict names (names.zip values) where
  nodup := by
    rw [List.map_fst_zip (le_of_eq hlength)]
    exact hnames
  subset field hfield := (List.of_mem_zip hfield).1

/-- The members of an object literal. -/
theorem map_get_zip {names : List JsString} (hnames : names.Nodup) {values : List JsValue}
    (hlength : names.length = values.length) :
    (names.map fun name => get name (names.zip values)) = values := by
  induction names generalizing values with
  | nil =>
      cases values with
      | nil => rfl
      | cons _ _ => cases hlength
  | cons name names ih =>
      cases values with
      | nil => cases hlength
      | cons value values =>
          obtain ⟨hname, hnodup⟩ := List.nodup_cons.mp hnames
          have hfirst : get name ((name, value) :: names.zip values) = value := by simp [get]
          have hrest : ∀ n ∈ names,
              get n ((name, value) :: names.zip values) = get n (names.zip values) := by
            intro n hn
            have hne : (n == name) = false := by
              rw [beq_eq_false_iff_ne]
              rintro rfl
              exact hname hn
            simp [get, List.lookup_cons, hne]
          rw [List.zip_cons_cons, List.map_cons, hfirst, List.map_congr_left hrest,
            ih hnodup (Nat.succ.inj hlength)]

/-- What is read member by member is the object literal of the members. -/
theorem canonical_record {names : List JsString} (hnames : names.Nodup)
    {fields : List (JsString × JsValue)} (h : Strict names fields) {values : List JsValue}
    (hmembers : (names.map fun name => (get name fields).member) =
      values.map JsValue.member) :
    (obj fields).canonical = (record names values).canonical := by
  have hlength : names.length = values.length := by
    simpa using congrArg List.length hmembers
  refine (canonical_obj_eq_iff h (strict_zip hnames hlength)).mpr ?_
  refine List.map_inj_left.mp (hmembers.trans ?_)
  conv_lhs => rw [← map_get_zip hnames hlength, List.map_map]
  rfl

/-- An object literal has the members it was written with. -/
theorem record_injective {names : List JsString} (hnames : names.Nodup)
    {values values' : List JsValue} (hlength : names.length = values.length)
    (hlength' : names.length = values'.length)
    (h : (record names values).canonical = (record names values').canonical) :
    values.map JsValue.member = values'.map JsValue.member := by
  have hmembers := (canonical_obj_eq_iff (strict_zip hnames hlength)
    (strict_zip hnames hlength')).mp h
  have hmap := List.map_congr_left hmembers
  have hvalues : ∀ {vs : List JsValue}, names.length = vs.length →
      (names.map fun name => (get name (names.zip vs)).member) = vs.map JsValue.member := by
    intro vs hvs
    conv_rhs => rw [← map_get_zip hnames hvs, List.map_map]
    rfl
  rw [← hvalues hlength, ← hvalues hlength']
  exact hmap

/-- An object is plain when the members under its names are. -/
theorem plain_obj {names : List JsString} {fields : List (JsString × JsValue)}
    (h : Strict names fields) (hplain : ∀ name ∈ names, (get name fields).Plain) :
    (obj fields).Plain := by
  refine .obj fun field hfield => ?_
  rw [← get_of_mem h.nodup hfield]
  exact hplain _ (h.subset field hfield)

theorem plain_record {names : List JsString} {values : List JsValue}
    (hplain : ∀ value ∈ values, value.Plain) : (record names values).Plain :=
  .obj fun _ hfield => hplain _ (List.of_mem_zip hfield).2

/-- A member that was read contributes what its writer writes. -/
def Matches (value written : JsValue) : Prop :=
  value.Plain ∧ value.member = written.member

theorem MemberCodec.matches (h : MemberCodec read write) {value : JsValue} {a : α}
    (hread : read value = some a) : Matches value (write a) := ⟨h.plain hread, h.member hread⟩

theorem Codec.matches (h : Codec read write) {value : JsValue} {a : α}
    (hread : read value = some a) : Matches value (write a) := h.memberCodec.matches hread

theorem matches_text {accepts : JsString → Bool} {value : JsValue} {s : JsString}
    (hread : text accepts value = some s) : Matches value (.str s) :=
  (codec_text accepts).matches hread

theorem matches_natural {minimum maximum n : ℕ} {value : JsValue}
    (hread : natural minimum maximum value = some n) : Matches value (.num n) :=
  (codec_natural minimum maximum).matches hread

theorem matches_literal {s : JsString} {value : JsValue} {u : Unit}
    (hread : literal s value = some u) : Matches value (.str s) :=
  (codec_literal s).matches hread

theorem members_of_matches {fields : List (JsString × JsValue)} {names : List JsString}
    {written : List JsValue}
    (h : List.Forall₂ (fun name value => Matches (get name fields) value) names written) :
    (names.map fun name => (get name fields).member) = written.map JsValue.member := by
  induction h with
  | nil => rfl
  | cons hmatch _ ih =>
      simp only [List.map_cons, ih]
      rw [hmatch.2]

/-- The codec of an object: its members are read one by one, and written under the names. -/
theorem codec_object {names : List JsString} (hnames : names.Nodup) {values : α → List JsValue}
    (hlength : ∀ a, names.length = (values a).length)
    (hread : ∀ {value a}, read value = some a → ∃ fields,
      strictFields names value = some fields ∧
        List.Forall₂ (fun name written => Matches (get name fields) written) names (values a))
    (hplain : ∀ a, (values a).Forall Plain)
    (hinjective : ∀ {a b}, (values a).map JsValue.member = (values b).map JsValue.member →
      a = b) : Codec read fun a => record names (values a) where
  defined h := by
    obtain ⟨fields, hfields, -⟩ := hread h
    obtain ⟨rfl, -⟩ := strictFields_eq_some.mp hfields
    rfl
  plain h := by
    obtain ⟨fields, hfields, hmatches⟩ := hread h
    obtain ⟨rfl, hstrict⟩ := strictFields_eq_some.mp hfields
    refine plain_obj hstrict fun name hname => ?_
    obtain ⟨i, hi, rfl⟩ := List.getElem_of_mem hname
    exact (hmatches.get hi (hmatches.length_eq ▸ hi)).1
  canonical h := by
    obtain ⟨fields, hfields, hmatches⟩ := hread h
    obtain ⟨rfl, hstrict⟩ := strictFields_eq_some.mp hfields
    exact canonical_record hnames hstrict (members_of_matches hmatches)
  defined_write _ := rfl
  plain_write a := plain_record (List.forall_iff_forall_mem.mp (hplain a))
  injective h := hinjective (record_injective hnames (hlength _) (hlength _) h)

end Codecs

end JsValue

end Foundation
