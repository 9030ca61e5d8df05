import Mathlib.Data.List.Sort
import UnderstandProof.Foundation.JsString

/-!
# Lengths, lines and the order of strings

The UTF-8 length of a string, the lines of a text, and the order of strings by
their code units, which is also what `sort` without a comparison uses.
-/

namespace Foundation

namespace JsString

/-! ## UTF-8 lengths -/

/-- `new TextEncoder().encode(value).byteLength` -/
def utf8Bytes (s : JsString) : ℕ := (utf8Encode s).length

@[simp] theorem utf8Bytes_nil : utf8Bytes [] = 0 := rfl

theorem length_encodeUnit_pos (c : UInt16) : 0 < (encodeUnit c).length := by
  simp only [encodeUnit]
  split_ifs <;> simp

theorem length_encodeUnit_le (c : UInt16) : (encodeUnit c).length ≤ 3 := by
  simp only [encodeUnit]
  split_ifs <;> simp

/-- Every code unit takes at least one byte and at most three. -/
theorem utf8Bytes_bounds (s : JsString) :
    s.length ≤ utf8Bytes s ∧ utf8Bytes s ≤ 3 * s.length := by
  unfold utf8Bytes
  induction s using utf8Encode.induct with
  | case1 => simp [utf8Encode]
  | case2 c =>
      have hpos := length_encodeUnit_pos c
      have hle := length_encodeUnit_le c
      simp only [utf8Encode, List.length_singleton]
      omega
  | case3 c d rest hpair ih =>
      rw [utf8Encode, if_pos hpair]
      simp only [List.length_append, List.length_cons, encodePair, List.length_nil]
      omega
  | case4 c d rest hpair ih =>
      have hpos := length_encodeUnit_pos c
      have hle := length_encodeUnit_le c
      rw [utf8Encode, if_neg hpair]
      simp only [List.length_append, List.length_cons] at ih ⊢
      omega

theorem length_le_utf8Bytes (s : JsString) : s.length ≤ utf8Bytes s := (utf8Bytes_bounds s).1

/-- In front of a code unit that is no low surrogate the lengths add up. -/
theorem utf8Bytes_append_cons {c : UInt16} (hc : isLowSurrogate c = false) (a b : JsString) :
    utf8Bytes (a ++ c :: b) = utf8Bytes a + utf8Bytes (c :: b) := by
  induction a using utf8Encode.induct with
  | case1 => simp
  | case2 d =>
      have hpair : ¬ (isHighSurrogate d && isLowSurrogate c) = true := by simp [hc]
      simp only [utf8Bytes, List.singleton_append, utf8Encode, if_neg hpair,
        List.length_append]
  | case3 d e rest hpair ih =>
      simp only [utf8Bytes, List.cons_append, utf8Encode, if_pos hpair,
        List.length_append] at ih ⊢
      omega
  | case4 d e rest hpair ih =>
      simp only [utf8Bytes, List.cons_append, utf8Encode, if_neg hpair,
        List.length_append] at ih ⊢
      omega

theorem utf8Bytes_singleton_le (c : UInt16) (b : JsString) :
    utf8Bytes [c] ≤ utf8Bytes (c :: b) := by
  have hle := length_encodeUnit_le c
  cases b with
  | nil => exact le_rfl
  | cons d rest =>
      simp only [utf8Bytes, utf8Encode]
      split
      · simp only [List.length_append, encodePair, List.length_cons, List.length_nil]
        omega
      · rw [List.length_append]
        omega

theorem utf8Encode_ne_nil {s : JsString} (h : s ≠ []) : utf8Encode s ≠ [] := by
  cases s with
  | nil => exact absurd rfl h
  | cons c s =>
      have hpos : 0 < utf8Bytes [c] := length_encodeUnit_pos c
      exact List.ne_nil_of_length_pos (Nat.lt_of_lt_of_le hpos (utf8Bytes_singleton_le c s))

/-- A longer string has at least as many bytes. -/
theorem utf8Bytes_le_append (a b : JsString) : utf8Bytes a ≤ utf8Bytes (a ++ b) := by
  induction a using utf8Encode.induct with
  | case1 => exact Nat.zero_le _
  | case2 c => exact utf8Bytes_singleton_le c b
  | case3 c d rest hpair ih =>
      simp only [utf8Bytes, List.cons_append, utf8Encode, if_pos hpair,
        List.length_append] at ih ⊢
      omega
  | case4 c d rest hpair ih =>
      simp only [utf8Bytes, List.cons_append, utf8Encode, if_neg hpair,
        List.length_append] at ih ⊢
      omega

theorem utf8Bytes_cons_le (c : UInt16) (b : JsString) :
    utf8Bytes (c :: b) ≤ utf8Bytes [c] + utf8Bytes b := by
  cases b with
  | nil => simp
  | cons d rest =>
      by_cases hd : isLowSurrogate d = true
      · have hsurrogate : 0xdc00 ≤ d.toNat ∧ d.toNat ≤ 0xdfff := by
          simpa [isLowSurrogate, UInt16.le_iff_toNat_le] using hd
        have hhigh : isHighSurrogate d = false := by
          rw [Bool.eq_false_iff]
          intro h
          have hbounds : 0xd800 ≤ d.toNat ∧ d.toNat ≤ 0xdbff := by
            simpa [isHighSurrogate, UInt16.le_iff_toNat_le] using h
          omega
        have hunit : utf8Bytes (d :: rest) = 3 + utf8Bytes rest := by
          have hthree : (encodeUnit d).length = 3 := by
            simp only [encodeUnit]
            rw [if_neg (by omega), if_neg (by omega)]
            split <;> rfl
          cases rest with
          | nil => simp [utf8Bytes, utf8Encode, hthree]
          | cons e rest =>
              simp only [utf8Bytes, utf8Encode, hhigh, Bool.false_and, Bool.false_eq_true,
                if_false, List.length_append, hthree]
        have hc := length_encodeUnit_pos c
        rw [hunit]
        simp only [utf8Bytes, utf8Encode]
        split
        · simp only [List.length_append, encodePair, List.length_cons, List.length_nil]
          omega
        · have hd3 : utf8Bytes (d :: rest) = 3 + utf8Bytes rest := hunit
          rw [utf8Bytes, utf8Bytes] at hd3
          rw [List.length_append]
          omega
      · rw [Bool.not_eq_true] at hd
        have hpair : ¬ (isHighSurrogate c && isLowSurrogate d) = true := by simp [hd]
        simp only [utf8Bytes, utf8Encode, if_neg hpair, List.length_append]
        exact le_rfl

/-- Joining two halves of a surrogate pair saves bytes; otherwise the lengths add up. -/
theorem utf8Bytes_append_le (a b : JsString) :
    utf8Bytes (a ++ b) ≤ utf8Bytes a + utf8Bytes b := by
  induction a using utf8Encode.induct with
  | case1 => simp
  | case2 c => exact utf8Bytes_cons_le c b
  | case3 c d rest hpair ih =>
      simp only [utf8Bytes, List.cons_append, utf8Encode, if_pos hpair,
        List.length_append] at ih ⊢
      omega
  | case4 c d rest hpair ih =>
      simp only [utf8Bytes, List.cons_append, utf8Encode, if_neg hpair,
        List.length_append] at ih ⊢
      omega

/-! ## Lines -/

def newline : UInt16 := 0x0a

/-- `split("\n")` -/
def lines (s : JsString) : List JsString := s.splitOn newline

/-- `join("\n")` -/
def joinLines (l : List JsString) : JsString := [newline].intercalate l

theorem joinLines_lines (s : JsString) : joinLines (lines s) = s :=
  List.intercalate_splitOn newline

theorem lines_ne_nil (s : JsString) : lines s ≠ [] := List.splitOn_ne_nil _ _

/-- Lines that hold no newline come back from their joined text. -/
theorem lines_joinLines {l : List JsString} (h : ∀ line ∈ l, newline ∉ line) (hne : l ≠ []) :
    lines (joinLines l) = l := List.splitOn_intercalate newline h hne

@[simp] theorem joinLines_nil : joinLines [] = [] := rfl

@[simp] theorem joinLines_singleton (line : JsString) : joinLines [line] = line := by
  simp [joinLines]

theorem joinLines_cons_cons (line next : JsString) (l : List JsString) :
    joinLines (line :: next :: l) = line ++ newline :: joinLines (next :: l) := by
  simp [joinLines, List.intercalate_cons_cons]

/-- Joining two lists of lines. -/
theorem joinLines_append {l m : List JsString} (hl : l ≠ []) (hm : m ≠ []) :
    joinLines (l ++ m) = joinLines l ++ newline :: joinLines m := by
  induction l with
  | nil => exact absurd rfl hl
  | cons line l ih =>
      cases l with
      | nil =>
          cases m with
          | nil => exact absurd rfl hm
          | cons next m => simp [joinLines_cons_cons]
      | cons next l =>
          rw [List.cons_append, List.cons_append, joinLines_cons_cons, ← List.cons_append,
            ih (List.cons_ne_nil _ _), joinLines_cons_cons]
          simp

theorem newline_not_mem_of_mem_lines {s line : JsString} (h : line ∈ lines s) :
    newline ∉ line := by
  induction s generalizing line with
  | nil =>
      rw [lines, List.splitOn_nil, List.mem_singleton] at h
      rw [h]
      exact List.not_mem_nil
  | cons c s ih =>
      rw [lines, List.splitOn_cons_eq_if_modifyHead] at h
      by_cases hc : c = newline
      · rw [if_pos (by simp [hc]), List.mem_cons] at h
        rcases h with rfl | h
        · exact List.not_mem_nil
        · exact ih h
      · rw [if_neg (by simp [hc])] at h
        cases hs : s.splitOn newline with
        | nil => exact absurd hs (lines_ne_nil s)
        | cons first rest =>
            rw [hs, List.modifyHead_cons, List.mem_cons] at h
            rcases h with rfl | h
            · have hfirst : newline ∉ first := ih (by rw [lines, hs]; exact List.mem_cons_self)
              rw [List.mem_cons, not_or]
              exact ⟨Ne.symm hc, hfirst⟩
            · exact ih (by rw [lines, hs]; exact List.mem_cons_of_mem _ h)

/-- A newline between two texts is one byte. -/
theorem utf8Bytes_append_newline (a b : JsString) :
    utf8Bytes (a ++ newline :: b) = utf8Bytes a + 1 + utf8Bytes b := by
  have hb : utf8Bytes (newline :: b) = 1 + utf8Bytes b := by
    cases b with
    | nil => rfl
    | cons c b =>
        have hpair : ¬ (isHighSurrogate newline && isLowSurrogate c) = true := by
          simp [isHighSurrogate, newline]
        simp only [utf8Bytes, utf8Encode, if_neg hpair, List.length_append]
        rfl
  rw [utf8Bytes_append_cons (by decide), hb, Nat.add_assoc]

/-! ## The order by code units -/

/-- `left < right` -/
def before : JsString → JsString → Bool
  | _, [] => false
  | [], _ :: _ => true
  | c :: a, d :: b => c < d || (c == d && before a b)

/-- `left` does not stand behind `right`. -/
def notAfter (left right : JsString) : Bool := !before right left

theorem before_trans {a b c : JsString} (hab : before a b = true) (hbc : before b c = true) :
    before a c = true := by
  induction a generalizing b c with
  | nil =>
      cases c with
      | nil => cases b <;> simp [before] at hbc
      | cons z c => rfl
  | cons x a ih =>
      cases b with
      | nil => simp [before] at hab
      | cons y b =>
          cases c with
          | nil => simp [before] at hbc
          | cons z c =>
              simp only [before, Bool.or_eq_true, Bool.and_eq_true, decide_eq_true_eq,
                beq_iff_eq] at hab hbc ⊢
              rcases hab with hxy | ⟨rfl, hab⟩
              · rcases hbc with hyz | ⟨rfl, -⟩
                · exact Or.inl (UInt16.lt_trans hxy hyz)
                · exact Or.inl hxy
              · rcases hbc with hyz | ⟨rfl, hbc⟩
                · exact Or.inl hyz
                · exact Or.inr ⟨rfl, ih hab hbc⟩

theorem before_trichotomy (a b : JsString) :
    before a b = true ∨ a = b ∨ before b a = true := by
  induction a generalizing b with
  | nil => cases b <;> simp [before]
  | cons x a ih =>
      cases b with
      | nil => simp [before]
      | cons y b =>
          simp only [before, Bool.or_eq_true, Bool.and_eq_true, decide_eq_true_eq, beq_iff_eq,
            List.cons.injEq]
          rcases Nat.lt_trichotomy x.toNat y.toNat with hlt | heq | hgt
          · exact Or.inl (Or.inl (UInt16.lt_iff_toNat_lt.mpr hlt))
          · obtain rfl := UInt16.toNat_inj.mp heq
            rcases ih b with h | h | h
            · exact Or.inl (Or.inr ⟨rfl, h⟩)
            · exact Or.inr (Or.inl ⟨rfl, h⟩)
            · exact Or.inr (Or.inr (Or.inr ⟨rfl, h⟩))
          · exact Or.inr (Or.inr (Or.inl (UInt16.lt_iff_toNat_lt.mpr hgt)))

theorem before_irrefl (a : JsString) : before a a = false := by
  induction a with
  | nil => rfl
  | cons x a ih => simp [before, ih]

theorem before_asymm {a b : JsString} (h : before a b = true) : before b a = false := by
  by_contra hne
  have hself := before_trans h (by simpa using hne)
  rw [before_irrefl] at hself
  cases hself

theorem notAfter_total (a b : JsString) : notAfter a b = true ∨ notAfter b a = true := by
  rcases before_trichotomy a b with h | rfl | h
  · exact .inl (by simp [notAfter, before_asymm h])
  · exact .inl (by simp [notAfter, before_irrefl])
  · exact .inr (by simp [notAfter, before_asymm h])

theorem notAfter_trans {a b c : JsString} (hab : notAfter a b = true)
    (hbc : notAfter b c = true) : notAfter a c = true := by
  simp only [notAfter, Bool.not_eq_true'] at hab hbc ⊢
  rcases before_trichotomy a b with h | rfl | h
  · rcases before_trichotomy b c with h' | rfl | h'
    · exact before_asymm (before_trans h h')
    · exact before_asymm h
    · rw [hbc] at h'
      cases h'
  · exact hbc
  · rw [hab] at h
    cases h

theorem notAfter_antisymm {a b : JsString} (hab : notAfter a b = true)
    (hba : notAfter b a = true) : a = b := by
  simp only [notAfter, Bool.not_eq_true'] at hab hba
  rcases before_trichotomy a b with h | h | h
  · rw [hba] at h
    cases h
  · exact h
  · rw [hab] at h
    cases h

/-- `sort()` on strings. -/
def sort (l : List JsString) : List JsString := l.insertionSort fun a b => notAfter a b

theorem sort_perm (l : List JsString) : (sort l).Perm l := List.perm_insertionSort _ l

instance : Std.Total fun a b : JsString => notAfter a b = true := ⟨notAfter_total⟩

instance : IsTrans JsString fun a b => notAfter a b = true :=
  ⟨fun _ _ _ => notAfter_trans⟩

/-- Sorting a sorted list changes nothing. -/
theorem sort_sort (l : List JsString) : sort (sort l) = sort l :=
  (List.pairwise_insertionSort _ l).insertionSort_eq

end JsString

end Foundation
