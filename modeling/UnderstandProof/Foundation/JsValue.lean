import UnderstandProof.Foundation.Json
import UnderstandProof.Foundation.JsonText

/-!
# Values and their canonical text

The values of the language as a schema sees them. `stableJson` prints a value with the keys of
every object in the order of their code units, without the members that are undefined; `canonical`
is the JSON value that it prints. Two plain values have the same text exactly when they have the
same canonical value.
-/

namespace Foundation

open Json (quote stringify stringifyItems stringifyFields)

/-- A value of the language. An object is the list of its members in their order, no key twice. -/
inductive JsValue where
  | undefined
  | null
  | bool (b : Bool)
  | num (n : ℕ)
  | str (s : JsString)
  | arr (items : List JsValue)
  | obj (fields : List (JsString × JsValue))
  /-- Any other value, a negative or fractional number say, with what `JSON.stringify` makes of
  it. -/
  | other (text : JsString)

namespace JsValue

/-- The entries of an object in the order of their keys. -/
def sortEntries {α : Type} (entries : List (JsString × α)) : List (JsString × α) :=
  entries.insertionSort fun a b => JsString.notAfter a.1 b.1

/-- The entries of an object with the texts of their values. -/
def joinEntries : List (JsString × JsString) → JsString
  | [] => []
  | [(key, text)] => quote key ++ 0x3a :: text
  | (key, text) :: next :: entries =>
      quote key ++ 0x3a :: text ++ 0x2c :: joinEntries (next :: entries)

def isUndefined : JsValue → Bool
  | undefined => true
  | _ => false

mutual

/-- `stableJson` of a value. The texts of the members are taken before the sort, which looks at
the keys alone. -/
def stableJson : JsValue → JsString
  | undefined => js "null"
  | null => js "null"
  | bool true => js "true"
  | bool false => js "false"
  | num n => JsString.decimal n
  | str s => quote s
  | arr items => 0x5b :: stableJsonItems items ++ [0x5d]
  | obj fields => 0x7b :: joinEntries (sortEntries (stableJsonEntries fields)) ++ [0x7d]
  | other text => text

/-- `value.map((item) => stableJson(item)).join(",")` -/
def stableJsonItems : List JsValue → JsString
  | [] => []
  | [item] => stableJson item
  | item :: next :: items => stableJson item ++ 0x2c :: stableJsonItems (next :: items)

/-- The members that are not undefined, with their texts. -/
def stableJsonEntries : List (JsString × JsValue) → List (JsString × JsString)
  | [] => []
  | (key, value) :: fields =>
      if value.isUndefined then stableJsonEntries fields
      else (key, stableJson value) :: stableJsonEntries fields

end

mutual

/-- The JSON value that is printed. -/
def canonical : JsValue → Json
  | undefined => .null
  | null => .null
  | bool b => .bool b
  | num n => .num n
  | str s => .str s
  | arr items => .arr (canonicalItems items)
  | obj fields => .obj (sortEntries (canonicalEntries fields))
  | other _ => .null

def canonicalItems : List JsValue → List Json
  | [] => []
  | item :: items => canonical item :: canonicalItems items

def canonicalEntries : List (JsString × JsValue) → List (JsString × Json)
  | [] => []
  | (key, value) :: fields =>
      if value.isUndefined then canonicalEntries fields
      else (key, canonical value) :: canonicalEntries fields

end

/-- A value with no other value in it. -/
inductive Plain : JsValue → Prop
  | undefined : Plain .undefined
  | null : Plain .null
  | bool (b : Bool) : Plain (.bool b)
  | num (n : ℕ) : Plain (.num n)
  | str (s : JsString) : Plain (.str s)
  | arr {items : List JsValue} (h : ∀ item ∈ items, item.Plain) : Plain (.arr items)
  | obj {fields : List (JsString × JsValue)} (h : ∀ field ∈ fields, field.2.Plain) :
      Plain (.obj fields)

/-! ## The text of the canonical value -/

theorem stableJsonItems_eq {items : List JsValue}
    (h : ∀ item ∈ items, item.stableJson = stringify item.canonical) :
    stableJsonItems items = stringifyItems (canonicalItems items) := by
  induction items with
  | nil => rfl
  | cons item items ih =>
      have hitems := ih fun i hi => h i (List.mem_cons_of_mem _ hi)
      have hitem := h item List.mem_cons_self
      cases items with
      | nil => simpa only [stableJsonItems, canonicalItems, stringifyItems] using hitem
      | cons next items =>
          simp only [stableJsonItems, canonicalItems, stringifyItems] at hitems ⊢
          rw [hitem, hitems]

theorem stableJsonEntries_eq {fields : List (JsString × JsValue)}
    (h : ∀ field ∈ fields, field.2.stableJson = stringify field.2.canonical) :
    stableJsonEntries fields =
      (canonicalEntries fields).map fun entry => (entry.1, stringify entry.2) := by
  induction fields with
  | nil => rfl
  | cons field fields ih =>
      obtain ⟨key, value⟩ := field
      have hfields := ih fun f hf => h f (List.mem_cons_of_mem _ hf)
      have hvalue := h (key, value) List.mem_cons_self
      simp only [stableJsonEntries, canonicalEntries]
      split
      · exact hfields
      · rw [List.map_cons, ← hfields, ← hvalue]

theorem joinEntries_map (entries : List (JsString × Json)) :
    joinEntries (entries.map fun entry => (entry.1, stringify entry.2)) =
      stringifyFields entries := by
  induction entries with
  | nil => rfl
  | cons entry entries ih =>
      cases entries with
      | nil => rfl
      | cons next entries =>
          simp only [List.map_cons, joinEntries, stringifyFields] at ih ⊢
          rw [ih]

/-- The order of the entries is that of their keys, whatever stands behind the keys. -/
theorem sortEntries_map {α β : Type} (f : α → β) (entries : List (JsString × α)) :
    sortEntries (entries.map fun entry => (entry.1, f entry.2)) =
      (sortEntries entries).map fun entry => (entry.1, f entry.2) :=
  (List.map_insertionSort _ _ (fun entry : JsString × α => (entry.1, f entry.2)) entries
    fun _ _ _ _ => Iff.rfl).symm

theorem stableJson_eq {value : JsValue} (h : value.Plain) :
    value.stableJson = stringify value.canonical := by
  induction h with
  | undefined => rfl
  | null => rfl
  | bool b => cases b <;> rfl
  | num n => rfl
  | str s => rfl
  | arr _ ih => simp only [stableJson, canonical, stringify, stableJsonItems_eq ih]
  | obj _ ih =>
      simp only [stableJson, canonical, stringify, stableJsonEntries_eq ih]
      rw [sortEntries_map stringify, joinEntries_map]

/-- Plain values have the same text exactly when they have the same canonical value. -/
theorem stableJson_eq_iff {value other : JsValue} (h : value.Plain) (hother : other.Plain) :
    value.stableJson = other.stableJson ↔ value.canonical = other.canonical := by
  rw [stableJson_eq h, stableJson_eq hother]
  exact Json.stringify_injective.eq_iff

/-! ## Members -/

/-- The member under a key; undefined where there is none. -/
def get (name : JsString) (fields : List (JsString × JsValue)) : JsValue :=
  (fields.lookup name).getD .undefined

/-- What a member contributes to the text of its object. -/
def member (value : JsValue) : Option Json :=
  if value.isUndefined then none else some value.canonical

/-- The members of an object: its keys are among `names`, and none is there twice. -/
structure Strict (names : List JsString) (fields : List (JsString × JsValue)) : Prop where
  nodup : (fields.map Prod.fst).Nodup
  subset : ∀ field ∈ fields, field.1 ∈ names

/-- A member is found under its key. -/
theorem get_of_mem {fields : List (JsString × JsValue)} (h : (fields.map Prod.fst).Nodup)
    {field : JsString × JsValue} (hfield : field ∈ fields) : get field.1 fields = field.2 := by
  induction fields with
  | nil => cases hfield
  | cons first fields ih =>
      obtain ⟨key, value⟩ := first
      obtain ⟨hfirst, hnodup⟩ := List.nodup_cons.mp h
      rcases List.mem_cons.mp hfield with rfl | hrest
      · simp [get]
      · have hne : (field.1 == key) = false := by
          rw [beq_eq_false_iff_ne]
          rintro rfl
          exact hfirst (List.mem_map.mpr ⟨field, hrest, rfl⟩)
        rw [← ih hnodup hrest]
        simp [get, List.lookup_cons, hne]

theorem mem_canonicalEntries {fields : List (JsString × JsValue)}
    (h : (fields.map Prod.fst).Nodup) {name : JsString} {json : Json} :
    (name, json) ∈ canonicalEntries fields ↔ (get name fields).member = some json := by
  induction fields with
  | nil => simp [canonicalEntries, get, member, isUndefined]
  | cons field fields ih =>
      obtain ⟨key, value⟩ := field
      obtain ⟨hkey, hnodup⟩ := List.nodup_cons.mp h
      have ih := ih hnodup
      by_cases hname : name = key
      · subst hname
        have habsent : get name fields = .undefined := by
          have : fields.lookup name = none := by
            rw [List.lookup_eq_none_iff]
            rintro field hfield
            simp only [bne_iff_ne, ne_eq]
            rintro rfl
            exact hkey (List.mem_map.mpr ⟨field, hfield, rfl⟩)
          rw [get, this, Option.getD_none]
        have hget : get name ((name, value) :: fields) = value := by
          simp [get]
        have hrest : (name, json) ∉ canonicalEntries fields := by
          rw [ih, habsent]
          simp [member, isUndefined]
        rw [hget, canonicalEntries, member]
        split
        · simp [hrest]
        · simp [hrest, eq_comm]
      · have hget : get name ((key, value) :: fields) = get name fields := by
          have hne : (name == key) = false := by simpa using hname
          simp [get, List.lookup_cons, hne]
        rw [hget, ← ih, canonicalEntries]
        split
        · rfl
        · simp [hname]

theorem nodup_canonicalEntries {fields : List (JsString × JsValue)}
    (h : (fields.map Prod.fst).Nodup) : ((canonicalEntries fields).map Prod.fst).Nodup := by
  have hsub : ((canonicalEntries fields).map Prod.fst).Sublist (fields.map Prod.fst) := by
    clear h
    induction fields with
    | nil => simp [canonicalEntries]
    | cons field fields ih =>
        obtain ⟨key, value⟩ := field
        rw [canonicalEntries]
        split
        · exact ih.cons _
        · exact ih.cons_cons _
  exact hsub.nodup h

/-- Entries with distinct keys have one order. -/
theorem sortEntries_eq_of_perm {α : Type} {entries entries' : List (JsString × α)}
    (hperm : entries.Perm entries') (h : (entries.map Prod.fst).Nodup) :
    sortEntries entries = sortEntries entries' := by
  have htotal : Std.Total fun a b : JsString × α => JsString.notAfter a.1 b.1 = true :=
    ⟨fun a b => JsString.notAfter_total a.1 b.1⟩
  have htrans : IsTrans (JsString × α) fun a b => JsString.notAfter a.1 b.1 = true :=
    ⟨fun _ _ _ => JsString.notAfter_trans⟩
  refine List.Perm.eq_of_pairwise ?_ (List.pairwise_insertionSort _ _)
    (List.pairwise_insertionSort _ _) (((List.perm_insertionSort _ _).trans hperm).trans
      (List.perm_insertionSort _ _).symm)
  intro a b ha hb hab hba
  have ha' := (List.mem_insertionSort _).mp ha
  have hb' := hperm.mem_iff.mpr ((List.mem_insertionSort _).mp hb)
  exact List.inj_on_of_nodup_map h ha' hb' (JsString.notAfter_antisymm hab hba)

/-- Objects over the same names have the same canonical value exactly when their members have. -/
theorem canonical_obj_eq_iff {names : List JsString} {fields fields' : List (JsString × JsValue)}
    (h : Strict names fields) (h' : Strict names fields') :
    (obj fields).canonical = (obj fields').canonical ↔
      ∀ name ∈ names, (get name fields).member = (get name fields').member := by
  have hmem : ∀ {f : List (JsString × JsValue)}, Strict names f → ∀ {name json},
      (get name f).member = some json → name ∈ names := by
    intro f hf name json hjson
    by_contra hname
    have hnone : f.lookup name = none := by
      rw [List.lookup_eq_none_iff]
      intro field hfield
      simp only [bne_iff_ne, ne_eq]
      rintro rfl
      exact hname (hf.subset field hfield)
    rw [get, hnone, Option.getD_none] at hjson
    cases hjson
  simp only [canonical, Json.obj.injEq]
  constructor
  · intro heq name _
    have hiff : ∀ json, (name, json) ∈ canonicalEntries fields ↔
        (name, json) ∈ canonicalEntries fields' := by
      intro json
      rw [← List.mem_insertionSort (fun a b : JsString × Json => JsString.notAfter a.1 b.1 = true)]
      change (name, json) ∈ sortEntries (canonicalEntries fields) ↔ _
      rw [heq]
      exact List.mem_insertionSort _
    refine Option.ext fun json => ?_
    rw [← mem_canonicalEntries h.nodup, ← mem_canonicalEntries h'.nodup]
    exact hiff json
  · intro hmembers
    refine sortEntries_eq_of_perm ?_ (nodup_canonicalEntries h.nodup)
    refine (List.perm_ext_iff_of_nodup (nodup_canonicalEntries h.nodup).of_map
      (nodup_canonicalEntries h'.nodup).of_map).mpr ?_
    rintro ⟨name, json⟩
    rw [mem_canonicalEntries h.nodup, mem_canonicalEntries h'.nodup]
    constructor
    · intro hjson
      rw [← hmembers name (hmem h hjson)]
      exact hjson
    · intro hjson
      rw [hmembers name (hmem h' hjson)]
      exact hjson

/-! ## An object without one of its members -/

def withoutMember (name : JsString) : JsValue → JsValue
  | obj fields => obj (fields.filter fun field => field.1 != name)
  | value => value

theorem Plain.withoutMember {value : JsValue} (h : value.Plain) (name : JsString) :
    (value.withoutMember name).Plain := by
  cases h with
  | obj hfields => exact .obj fun field hfield => hfields field (List.mem_of_mem_filter hfield)
  | undefined => exact .undefined
  | null => exact .null
  | bool b => exact .bool b
  | num n => exact .num n
  | str s => exact .str s
  | arr hitems => exact .arr hitems

theorem Strict.filter {names : List JsString} {fields : List (JsString × JsValue)}
    (h : Strict names fields) (name : JsString) :
    Strict names (fields.filter fun field => field.1 != name) where
  nodup := h.nodup.sublist (List.filter_sublist.map _)
  subset field hfield := h.subset field (List.mem_of_mem_filter hfield)

theorem get_filter {fields : List (JsString × JsValue)} {name key : JsString} :
    get key (fields.filter fun field => field.1 != name) =
      if key = name then .undefined else get key fields := by
  induction fields with
  | nil => simp [get]
  | cons field fields ih =>
      obtain ⟨first, value⟩ := field
      by_cases hfirst : first = name
      · subst hfirst
        have hdrop : (((first, value) :: fields).filter fun field => field.1 != first) =
            fields.filter fun field => field.1 != first := by simp
        rw [hdrop, ih]
        split
        · rfl
        · next hkey =>
          have hne : (key == first) = false := by simpa using hkey
          simp [get, List.lookup_cons, hne]
      · have hkeep : (((first, value) :: fields).filter fun field => field.1 != name) =
            (first, value) :: fields.filter fun field => field.1 != name := by simp [hfirst]
        rw [hkeep]
        by_cases hkey : key = first
        · subst hkey
          simp [get, hfirst]
        · have hne : (key == first) = false := by simpa using hkey
          simpa [get, List.lookup_cons, hne] using ih

/-- Without a member, objects are compared by the other members. -/
theorem canonical_withoutMember_iff {names : List JsString}
    {fields fields' : List (JsString × JsValue)} (h : Strict names fields)
    (h' : Strict names fields') (name : JsString) :
    ((obj fields).withoutMember name).canonical = ((obj fields').withoutMember name).canonical ↔
      ∀ key ∈ names, key ≠ name → (get key fields).member = (get key fields').member := by
  refine (canonical_obj_eq_iff (h.filter name) (h'.filter name)).trans ?_
  refine forall₂_congr fun key _ => ?_
  rw [get_filter, get_filter]
  by_cases hkey : key = name
  · simp [hkey]
  · simp [hkey]

end JsValue

end Foundation
