import Mathlib.Data.List.Basic
import Stubsmith.Json.Printer
import Stubsmith.Json.Reader

/-!
# Reading back what was written as JSON

A tree without floating-point numbers and moments, whose whole numbers fit a word and whose records
have no key twice, is given back by the reader from its text on one line, unless it is too deep
(`parse?_compact`). The readers are followed token by token: each of them takes exactly what the
printer wrote for its part and leaves whatever stands behind it, or refuses what is nested deeper
than it may be. As some reader goes deep enough, a text belongs to one tree only
(`IsExact.eq_of_compact_eq`).
-/

namespace Stubsmith.Json

open Text

/-! ## Strings -/

/-- The last two of the four digits by which a control character is written. -/
def controlDigits (n : Nat) : List Char :=
  (if n < 0x10 then ['0'] else []) ++ hexDigits n

theorem hexNumber?_controlDigits :
    ∀ n < 0x20, (controlDigits n).length = 2 ∧
      hexNumber? ('0' :: '0' :: controlDigits n) = some n := by
  decide

section

variable {c : Char}

theorem readString?_control (h : c.toNat < 0x20) (rest : List Char) :
    readString? ('\\' :: 'u' :: '0' :: '0' :: (controlDigits c.toNat ++ rest))
      = (readString? rest).map fun (characters, rest) => (c :: characters, rest) := by
  obtain ⟨hlength, hnumber⟩ := hexNumber?_controlDigits c.toNat h
  obtain ⟨a, b, hdigits⟩ := List.length_eq_two.mp hlength
  rw [hdigits] at hnumber ⊢
  have hsurrogate : ¬ (0xd800 ≤ c.toNat ∧ c.toNat < 0xdc00) := by omega
  have hcode : charOfCode? c.toNat = some c := by
    rw [charOfCode?, if_pos (Or.inl (by omega)), Char.ofNat_toNat]
  rw [List.cons_append, List.singleton_append, readString?, hnumber, Option.bind_eq_bind,
    Option.bind_some, if_neg hsurrogate, hcode]
  cases readString? rest with
  | none => rfl
  | some r => rfl

theorem readString?_plain (hquote : c ≠ '"') (hslash : c ≠ '\\') (h : ¬ c.toNat < 0x20)
    (rest : List Char) :
    readString? (c :: rest)
      = (readString? rest).map fun (characters, rest) => (c :: characters, rest) := by
  rw [readString?]
  · rw [if_neg h]
    cases readString? rest with
    | none => rfl
    | some r => rfl
  · simp [hquote]
  · simp [hslash]
  · simp [hslash]

theorem readString?_escape {x : Char} (h : escaped? x = some c) (hx : x ≠ 'u')
    (rest : List Char) :
    readString? ('\\' :: x :: rest)
      = (readString? rest).map fun (characters, rest) => (c :: characters, rest) := by
  rw [readString?]
  · rw [h]
    cases readString? rest with
    | none => rfl
    | some r => rfl
  · simp [hx]

end

/-- A character is read from the form in which it stands in a string. -/
theorem readString?_stringChar (c : Char) (rest : List Char) :
    readString? (stringChar c ++ rest)
      = (readString? rest).map fun (characters, rest) => (c :: characters, rest) := by
  unfold stringChar
  split
  · next h => exact readString?_escape (by rw [h]; rfl) (by decide) rest
  split
  · next h => exact readString?_escape (by rw [h]; rfl) (by decide) rest
  split
  · next h => exact readString?_escape (by rw [h]; rfl) (by decide) rest
  split
  · next h => exact readString?_escape (by rw [h]; rfl) (by decide) rest
  split
  · next h => exact readString?_escape (by rw [h]; rfl) (by decide) rest
  split
  · next h => exact readString?_escape (by rw [h]; rfl) (by decide) rest
  split
  · next h => exact readString?_escape (by rw [h]; rfl) (by decide) rest
  split
  · next h =>
      rw [List.append_assoc, List.append_assoc, ← List.append_assoc _ _ rest]
      exact readString?_control h rest
  · next hquote hslash _ _ _ _ _ h => exact readString?_plain hquote hslash h rest

/-- The characters of a string are read up to the closing quote. -/
theorem readString?_flatMap (characters rest : List Char) :
    readString? (characters.flatMap stringChar ++ '"' :: rest) = some (characters, rest) := by
  induction characters with
  | nil => rw [List.flatMap_nil, List.nil_append, readString?]
  | cons c others ih =>
      rw [List.flatMap_cons, List.append_assoc, readString?_stringChar, ih]
      rfl

/-! ## Numbers -/

/-- What may stand behind a value: nothing, a comma, or a bracket that closes what it stands in. -/
inductive EndsValue : List Char → Prop where
  | nil : EndsValue []
  | comma (rest : List Char) : EndsValue (',' :: rest)
  | bracket (rest : List Char) : EndsValue (']' :: rest)
  | brace (rest : List Char) : EndsValue ('}' :: rest)

theorem ofDigits_toDigits (n : Nat) : Decimal.ofDigits (Nat.toDigits 10 n) = n := by
  rw [Decimal.ofDigits, ← Nat.ofDigitChars_eq_foldl, Nat.ofDigitChars_ten_toDigits]

/-- A number above zero does not begin with a zero. -/
theorem head?_toDigits_ne {n : Nat} (h : 0 < n) : (Nat.toDigits 10 n).head? ≠ some '0' := by
  induction n using Nat.strongRecOn with
  | _ n ih =>
      have hdigit : ∀ d < 10, 0 < d → [Nat.digitChar d].head? ≠ some '0' := by decide
      rw [Nat.toDigits_eq_if (by decide)]
      by_cases hsmall : n < 10
      · rw [if_pos hsmall]
        exact hdigit n hsmall h
      · rw [if_neg hsmall, List.head?_append_of_ne_nil _ Nat.toDigits_ne_nil]
        exact ih (n / 10) (by omega) (by omega)

/-- No superfluous zero stands in front of the digits of a number. -/
theorem not_leadingZero (n : Nat) :
    ¬ ((Nat.toDigits 10 n).head? = some '0' ∧ (Nat.toDigits 10 n).length > 1) := by
  rcases Nat.eq_zero_or_pos n with rfl | hpos
  · decide
  · exact fun h => head?_toDigits_ne hpos h.1

section

variable {n : Nat} {rest : List Char}

theorem isDigit_of_mem_toDigits {c : Char} (h : c ∈ Nat.toDigits 10 n) : c.isDigit = true :=
  Nat.isDigit_of_mem_toDigits (by decide) (by decide) h

theorem takeWhile_toDigits (h : EndsValue rest) :
    (Nat.toDigits 10 n ++ rest).takeWhile Char.isDigit = Nat.toDigits 10 n := by
  rw [List.takeWhile_append_of_pos fun _ hc => isDigit_of_mem_toDigits hc]
  cases h <;> exact List.append_nil _

theorem dropWhile_toDigits (h : EndsValue rest) :
    (Nat.toDigits 10 n ++ rest).dropWhile Char.isDigit = rest := by
  rw [List.dropWhile_append_of_pos fun _ hc => isDigit_of_mem_toDigits hc]
  cases h <;> rfl

/-- The digits of a number begin with a digit. -/
theorem exists_toDigits_eq_cons (n : Nat) :
    ∃ c digits, Nat.toDigits 10 n = c :: digits ∧ c.isDigit = true := by
  cases hdigits : Nat.toDigits 10 n with
  | nil => exact absurd hdigits Nat.toDigits_ne_nil
  | cons c digits =>
      have hmem : c ∈ Nat.toDigits 10 n := hdigits ▸ List.mem_cons_self ..
      exact ⟨c, digits, rfl, isDigit_of_mem_toDigits hmem⟩

/-- Digits behind an optional minus sign are read as a whole number. -/
theorem readNumber?_signed (negative : Bool) {number : Data}
    (hnumber : integerOfDigits? negative (Nat.toDigits 10 n) = some number) (h : EndsValue rest) :
    readNumber? ((if negative then ['-'] else []) ++ (Nat.toDigits 10 n ++ rest))
      = some (number, rest) := by
  have hminus : ∀ others, Nat.toDigits 10 n ++ rest ≠ '-' :: others := by
    obtain ⟨c, digits, hdigits, hc⟩ := exists_toDigits_eq_cons n
    intro others heq
    rw [hdigits, List.cons_append] at heq
    injection heq with heq _
    rw [heq] at hc
    simp at hc
  unfold readNumber?
  split
  next sign after hmatch =>
    obtain ⟨rfl, rfl⟩ : sign = negative ∧ after = Nat.toDigits 10 n ++ rest := by
      cases negative with
      | true => simpa [eq_comm] using hmatch
      | false =>
          split at hmatch
          · next others heq => exact absurd heq (hminus others)
          · simpa [eq_comm] using hmatch
    simp only [takeWhile_toDigits h, dropWhile_toDigits h]
    rw [if_neg (by simp [not_leadingZero, Nat.toDigits_ne_nil])]
    cases h <;> simp [hnumber]

/-- A whole number that fits a word is read from its text. -/
theorem readNumber?_integer {i : Int} (hfits : Word.fitsSigned i ∨ Word.fitsUnsigned i)
    (h : EndsValue rest) : readNumber? ((toString i).toList ++ rest) = some (.integer i, rest) := by
  rw [Int.toString_eq_repr, Int.repr_eq_if]
  rw [Word.fitsSigned_iff, Word.fitsUnsigned_iff] at hfits
  by_cases hpos : 0 ≤ i
  · have hunsigned : Word.fitsUnsigned i := (Word.fitsUnsigned_iff i).mpr (by omega)
    have hnumber : integerOfDigits? false (Nat.toDigits 10 i.toNat) = some (.integer i) := by
      simp [integerOfDigits?, ofDigits_toDigits, Int.toNat_of_nonneg hpos, hunsigned]
    rw [if_pos hpos, Nat.repr_eq_ofList_toDigits, String.toList_ofList]
    exact readNumber?_signed false hnumber h
  · have hsigned : Word.fitsSigned i := (Word.fitsSigned_iff i).mpr (by omega)
    have hcast : ((-i).toNat : Int) = -i := Int.toNat_of_nonneg (by omega)
    have hnumber : integerOfDigits? true (Nat.toDigits 10 (-i).toNat) = some (.integer i) := by
      simp [integerOfDigits?, ofDigits_toDigits, hcast, hsigned, show i < 0 by omega]
    rw [if_neg hpos, Nat.repr_eq_ofList_toDigits]
    simp only [String.toList_append, String.toList_ofList, List.append_assoc]
    exact readNumber?_signed true hnumber h

end

/-! ## Trees that are given back -/

/-- A tree whose text gives it back: it holds no numbers that may be rounded and no moments, its
whole numbers fit a word, and no key occurs twice in a record. -/
inductive IsExact : Data → Prop where
  | null : IsExact .null
  | boolean (b : Bool) : IsExact (.boolean b)
  | integer {i : Int} (hfits : Word.fitsSigned i ∨ Word.fitsUnsigned i) : IsExact (.integer i)
  | text (s : String) : IsExact (.text s)
  | list {items : List Data} (hitems : ∀ d ∈ items, IsExact d) : IsExact (.list items)
  | record {fields : List (String × Data)} (hkeys : (fields.map Prod.fst).Nodup)
      (hfields : ∀ field ∈ fields, IsExact field.2) : IsExact (.record fields)

/-! ## Texts, part by part -/

theorem toList_stringText (s : String) :
    (stringText s).toList = '"' :: (s.toList.flatMap stringChar ++ ['"']) := by
  simp [stringText]

theorem toList_compact_list (items : List Data) :
    (compact (.list items)).toList = '[' :: ((compactItems true items).toList ++ [']']) := by
  rw [compact, String.toList_append, String.toList_append]
  rfl

theorem toList_compact_record (fields : List (String × Data)) :
    (compact (.record fields)).toList = '{' :: ((compactFields true fields).toList ++ ['}']) := by
  rw [compact, String.toList_append, String.toList_append]
  rfl

theorem compactItems_false_cons (d : Data) (rest : List Data) :
    compactItems false (d :: rest) = "," ++ compactItems true (d :: rest) := by
  simp [compactItems, String.append_assoc]

theorem compactFields_false_cons (field : String × Data) (rest : List (String × Data)) :
    compactFields false (field :: rest) = "," ++ compactFields true (field :: rest) := by
  obtain ⟨key, d⟩ := field
  simp [compactFields, String.append_assoc]

section

variable (key : String) (d next : Data) (items : List Data) (field : String × Data)
  (fields : List (String × Data))

theorem toList_compactItems_single : (compactItems true [d]).toList = (compact d).toList := by
  simp [compactItems]

theorem toList_compactItems_cons :
    (compactItems true (d :: next :: items)).toList
      = (compact d).toList ++ ',' :: (compactItems true (next :: items)).toList := by
  rw [compactItems, compactItems_false_cons]
  simp

theorem toList_compactFields_single :
    (compactFields true [(key, d)]).toList
      = (stringText key).toList ++ ':' :: (compact d).toList := by
  simp [compactFields]

theorem toList_compactFields_cons :
    (compactFields true ((key, d) :: field :: fields)).toList
      = (stringText key).toList ++
          ':' :: ((compact d).toList ++ ',' :: (compactFields true (field :: fields)).toList) := by
  rw [compactFields, compactFields_false_cons]
  simp

end

/-! ## Where a value begins -/

/-- What a value begins with: no blank, and no closing bracket. -/
def IsValueStart (c : Char) : Prop :=
  c ∉ [' ', '\t', '\n', '\r', ']', '}']

theorem skipBlank_of_isValueStart {c : Char} (h : IsValueStart c) (rest : List Char) :
    skipBlank (c :: rest) = c :: rest := by
  simp only [IsValueStart, List.mem_cons, List.not_mem_nil, or_false, not_or] at h
  simp [skipBlank, h]

/-- What a number begins with. -/
def IsNumberStart (c : Char) : Prop :=
  c = '-' ∨ c.isDigit = true

/-- The text of a whole number begins like a number. -/
theorem exists_toString_eq_cons (i : Int) :
    ∃ c rest, (toString i).toList = c :: rest ∧ IsNumberStart c := by
  rw [Int.toString_eq_repr, Int.repr_eq_if]
  split
  · obtain ⟨c, digits, hdigits, hc⟩ := exists_toDigits_eq_cons i.toNat
    rw [Nat.repr_eq_ofList_toDigits, String.toList_ofList, hdigits]
    exact ⟨c, digits, rfl, Or.inr hc⟩
  · exact ⟨'-', _, by rw [String.toList_append]; rfl, Or.inl rfl⟩

theorem IsNumberStart.ne {c x : Char} (h : IsNumberStart c) (hx : ¬ IsNumberStart x) : c ≠ x :=
  fun heq => hx (heq ▸ h)

instance (c : Char) : Decidable (IsNumberStart c) :=
  inferInstanceAs (Decidable (c = '-' ∨ c.isDigit = true))

instance (c : Char) : Decidable (IsValueStart c) :=
  inferInstanceAs (Decidable (c ∉ [' ', '\t', '\n', '\r', ']', '}']))

/-- A number is a value. -/
theorem IsNumberStart.isValueStart {c : Char} (h : IsNumberStart c) : IsValueStart c := by
  simp only [IsValueStart, List.mem_cons, List.not_mem_nil, or_false, not_or]
  exact ⟨h.ne (by decide), h.ne (by decide), h.ne (by decide), h.ne (by decide), h.ne (by decide),
    h.ne (by decide)⟩

theorem readValue?_number {c : Char} (h : IsNumberStart c) (fuel depth : Nat) (rest : List Char) :
    readValue? (fuel + 1) depth (c :: rest) = readNumber? (c :: rest) := by
  rw [readValue?, skipBlank_of_isValueStart h.isValueStart]
  split
  case h_7 => rfl
  all_goals
    next heq =>
      injection heq with heq _
      exact absurd heq (h.ne (by decide))

/-- The text of a value begins like a value. -/
theorem exists_compact_eq_cons {d : Data} (h : IsExact d) :
    ∃ c rest, (compact d).toList = c :: rest ∧ IsValueStart c := by
  cases h with
  | null => exact ⟨_, _, rfl, by decide⟩
  | boolean b => cases b <;> exact ⟨_, _, rfl, by decide⟩
  | @integer i =>
      obtain ⟨c, rest, htext, hc⟩ := exists_toString_eq_cons i
      exact ⟨c, rest, htext, hc.isValueStart⟩
  | text s => exact ⟨_, _, toList_stringText s, by decide⟩
  | list => exact ⟨_, _, toList_compact_list _, by decide⟩
  | record => exact ⟨_, _, toList_compact_record _, by decide⟩

theorem length_compact_pos {d : Data} (h : IsExact d) : 0 < (compact d).toList.length := by
  obtain ⟨c, rest, htext, _⟩ := exists_compact_eq_cons h
  rw [htext, List.length_cons]
  exact Nat.succ_pos _

theorem exists_compactItems_eq_cons {item : Data} (others : List Data) (h : IsExact item) :
    ∃ c rest, (compactItems true (item :: others)).toList = c :: rest ∧ IsValueStart c := by
  obtain ⟨c, rest, htext, hc⟩ := exists_compact_eq_cons h
  cases others with
  | nil => exact ⟨c, rest, by rw [toList_compactItems_single, htext], hc⟩
  | cons next others => exact ⟨c, _, by rw [toList_compactItems_cons, htext]; rfl, hc⟩

theorem exists_compactFields_eq_cons (field : String × Data) (others : List (String × Data)) :
    ∃ rest, (compactFields true (field :: others)).toList = '"' :: rest := by
  obtain ⟨key, d⟩ := field
  cases others with
  | nil => exact ⟨_, by rw [toList_compactFields_single, toList_stringText]; rfl⟩
  | cons next others => exact ⟨_, by rw [toList_compactFields_cons, toList_stringText]; rfl⟩

/-! ## Readers, one token further -/

section

variable {fuel depth : Nat} {text rest after : List Char} {d : Data} {items : List Data}
  {fields : List (String × Data)} {key : String}

theorem readItems?_none (h : readValue? fuel depth text = none) :
    readItems? (fuel + 1) depth text = none := by
  rw [readItems?, h]
  rfl

theorem readItems?_last (h : readValue? fuel depth text = some (d, ']' :: rest)) :
    readItems? (fuel + 1) depth text = some ([d], rest) := by
  rw [readItems?, h]
  rfl

theorem readItems?_more (h : readValue? fuel depth text = some (d, ',' :: after)) :
    readItems? (fuel + 1) depth text
      = (readItems? fuel depth after).map fun (items, rest) => (d :: items, rest) := by
  rw [readItems?, h, Option.bind_eq_bind, Option.bind_some]
  simp only
  rw [show skipBlank (',' :: after) = ',' :: after from rfl]
  simp only
  cases readItems? fuel depth after with
  | none => rfl
  | some r => rfl

/-- The text of a string is read as key, and the value behind the colon is read next. -/
theorem readFields?_key (key : String) (fuel depth : Nat) (text : List Char) :
    readFields? (fuel + 1) depth ((stringText key).toList ++ ':' :: text)
      = (do
        let (value, rest) ← readValue? fuel depth text
        match skipBlank rest with
        | ',' :: rest => do
          let (fields, rest) ← readFields? fuel depth rest
          return ((key, value) :: fields, rest)
        | '}' :: rest => some ([(key, value)], rest)
        | _ => none) := by
  rw [toList_stringText, List.cons_append, List.append_assoc, List.singleton_append, readFields?,
    skipBlank_of_isValueStart (by decide)]
  simp only
  rw [readString?_flatMap]
  simp only [Option.bind_eq_bind, Option.bind_some, String.ofList_toList]
  rw [show skipBlank (':' :: text) = ':' :: text from rfl]
  rfl

theorem readFields?_none (h : readValue? fuel depth text = none) :
    readFields? (fuel + 1) depth ((stringText key).toList ++ ':' :: text) = none := by
  rw [readFields?_key, h]
  rfl

theorem readFields?_last (h : readValue? fuel depth text = some (d, '}' :: rest)) :
    readFields? (fuel + 1) depth ((stringText key).toList ++ ':' :: text)
      = some ([(key, d)], rest) := by
  rw [readFields?_key, h]
  rfl

theorem readFields?_more (h : readValue? fuel depth text = some (d, ',' :: after)) :
    readFields? (fuel + 1) depth ((stringText key).toList ++ ':' :: text)
      = (readFields? fuel depth after).map fun (fields, rest) => ((key, d) :: fields, rest) := by
  rw [readFields?_key, h, Option.bind_eq_bind, Option.bind_some]
  simp only
  rw [show skipBlank (',' :: after) = ',' :: after from rfl]
  simp only
  cases readFields? fuel depth after with
  | none => rfl
  | some r => rfl

theorem readValue?_list_zero (items : List Data) (fuel : Nat) (rest : List Char) :
    readValue? (fuel + 1) 0 ((compact (.list items)).toList ++ rest) = none := by
  rw [toList_compact_list, readValue?, List.cons_append, skipBlank_of_isValueStart (by decide)]
  rfl

theorem readValue?_list {c : Char} {others : List Char}
    (htext : (compactItems true items).toList = c :: others) (hc : IsValueStart c) :
    readValue? (fuel + 1) (depth + 1) ((compact (.list items)).toList ++ rest)
      = (readItems? fuel depth ((compactItems true items).toList ++ ']' :: rest)).map
          fun (items, rest) => (.list items, rest) := by
  have hbracket : c ≠ ']' := fun heq => by simp [IsValueStart, heq] at hc
  rw [toList_compact_list, htext, readValue?, List.cons_append,
    skipBlank_of_isValueStart (by decide)]
  simp only [List.append_assoc, List.cons_append, List.nil_append]
  rw [skipBlank_of_isValueStart hc]
  split
  · next heq =>
      injection heq with heq _
      exact absurd heq hbracket
  · cases readItems? fuel depth (c :: (others ++ ']' :: rest)) with
    | none => rfl
    | some r => rfl

theorem readValue?_record_zero (fields : List (String × Data)) (fuel : Nat) (rest : List Char) :
    readValue? (fuel + 1) 0 ((compact (.record fields)).toList ++ rest) = none := by
  rw [toList_compact_record, readValue?, List.cons_append, skipBlank_of_isValueStart (by decide)]
  rfl

theorem readValue?_record {others : List Char}
    (htext : (compactFields true fields).toList = '"' :: others) :
    readValue? (fuel + 1) (depth + 1) ((compact (.record fields)).toList ++ rest)
      = (readFields? fuel depth ((compactFields true fields).toList ++ '}' :: rest)).map
          fun (fields, rest) => (.record (OrderedMap.ofList fields).entries, rest) := by
  rw [toList_compact_record, htext, readValue?, List.cons_append,
    skipBlank_of_isValueStart (by decide)]
  simp only [List.append_assoc, List.cons_append, List.nil_append]
  rw [skipBlank_of_isValueStart (by decide)]
  split
  · next heq => cases heq
  · cases readFields? fuel depth ('"' :: (others ++ '}' :: rest)) with
    | none => rfl
    | some r => rfl

theorem readValue?_text (s : String) :
    readValue? (fuel + 1) depth ((compact (.text s)).toList ++ rest) = some (.text s, rest) := by
  have htext : (compact (.text s)).toList = (stringText s).toList := rfl
  rw [htext, toList_stringText, List.cons_append, List.append_assoc, List.singleton_append,
    readValue?, skipBlank_of_isValueStart (by decide)]
  simp only [readString?_flatMap, Option.bind_eq_bind, Option.bind_some, String.ofList_toList]
  rfl

theorem readValue?_integer {i : Int} (hfits : Word.fitsSigned i ∨ Word.fitsUnsigned i)
    (hrest : EndsValue rest) :
    readValue? (fuel + 1) depth ((compact (.integer i)).toList ++ rest)
      = some (.integer i, rest) := by
  have htext : (compact (.integer i)).toList = (toString i).toList := rfl
  obtain ⟨c, others, hcons, hc⟩ := exists_toString_eq_cons i
  rw [htext, hcons, List.cons_append, readValue?_number hc, ← List.cons_append, ← hcons,
    readNumber?_integer hfits hrest]

end

/-! ## How deep a tree is -/

mutual

/-- How many lists and records are nested in one another at the deepest place of the tree. -/
def depth : Data → Nat
  | .list items => itemsDepth items + 1
  | .record fields => fieldsDepth fields + 1
  | _ => 0

/-- The depth of the deepest item. -/
def itemsDepth : List Data → Nat
  | [] => 0
  | d :: rest => max (depth d) (itemsDepth rest)

/-- The depth of the deepest field. -/
def fieldsDepth : List (String × Data) → Nat
  | [] => 0
  | (_, d) :: rest => max (depth d) (fieldsDepth rest)

end

/-! ## Whole texts -/

/-- A value is read from its text, whatever stands behind it, with fuel for twice its characters,
exactly if it is no deeper than the reader may go. -/
def ReadsBack (d : Data) : Prop :=
  ∀ (rest : List Char) (fuel limit : Nat),
    EndsValue rest → 2 * (compact d).toList.length ≤ fuel + 1 →
    readValue? (fuel + 1) limit ((compact d).toList ++ rest)
      = if depth d ≤ limit then some (d, rest) else none

/-- A tree with nothing nested in it is not too deep for any reader. -/
theorem readsBack_of_depth_eq_zero {d : Data} (hdepth : depth d = 0)
    (h : ∀ rest fuel limit, EndsValue rest →
      readValue? (fuel + 1) limit ((compact d).toList ++ rest) = some (d, rest)) :
    ReadsBack d := by
  intro rest fuel limit hrest _
  rw [h rest fuel limit hrest, if_pos (by omega)]

theorem readItems?_compact {item : Data} {others : List Data}
    (hexact : ∀ d ∈ item :: others, IsExact d) (hread : ∀ d ∈ item :: others, ReadsBack d)
    (rest : List Char) (fuel limit : Nat)
    (hfuel : 2 * (compactItems true (item :: others)).toList.length ≤ fuel) :
    readItems? (fuel + 1) limit ((compactItems true (item :: others)).toList ++ ']' :: rest)
      = if itemsDepth (item :: others) ≤ limit then some (item :: others, rest) else none := by
  induction others generalizing item fuel with
  | nil =>
      have hpos := length_compact_pos (hexact item (List.mem_cons_self ..))
      rw [toList_compactItems_single] at hfuel ⊢
      obtain ⟨fuel, rfl⟩ : ∃ n, fuel = n + 1 := ⟨fuel - 1, by omega⟩
      have hitem :=
        hread item (List.mem_cons_self ..) _ fuel limit (.bracket rest) (by omega)
      rw [itemsDepth, itemsDepth, Nat.max_zero]
      split
      · next hdepth => exact readItems?_last (by rw [hitem, if_pos hdepth])
      · next hdepth => exact readItems?_none (by rw [hitem, if_neg hdepth])
  | cons next others ih =>
      rw [toList_compactItems_cons] at hfuel ⊢
      rw [List.length_append, List.length_cons] at hfuel
      obtain ⟨fuel, rfl⟩ : ∃ n, fuel = n + 1 := ⟨fuel - 1, by omega⟩
      have hothers := ih (fun d hd => hexact d (List.mem_cons_of_mem _ hd))
        (fun d hd => hread d (List.mem_cons_of_mem _ hd)) fuel (by omega)
      rw [List.append_assoc, List.cons_append]
      have hitem := hread item (List.mem_cons_self ..) _ fuel limit
        (.comma ((compactItems true (next :: others)).toList ++ ']' :: rest)) (by omega)
      by_cases hdepth : depth item ≤ limit
      · have hiff : itemsDepth (item :: next :: others) ≤ limit ↔
            itemsDepth (next :: others) ≤ limit := by
          rw [itemsDepth, Nat.max_le, and_iff_right hdepth]
        rw [readItems?_more (by rw [hitem, if_pos hdepth]), hothers]
        simp only [hiff]
        split
        · rfl
        · rfl
      · rw [readItems?_none (by rw [hitem, if_neg hdepth]), if_neg]
        rw [itemsDepth, Nat.max_le]
        exact fun h => hdepth h.1

theorem readFields?_compact {field : String × Data} {others : List (String × Data)}
    (hread : ∀ f ∈ field :: others, ReadsBack f.2) (rest : List Char) (fuel limit : Nat)
    (hfuel : 2 * (compactFields true (field :: others)).toList.length ≤ fuel) :
    readFields? (fuel + 1) limit ((compactFields true (field :: others)).toList ++ '}' :: rest)
      = if fieldsDepth (field :: others) ≤ limit then some (field :: others, rest) else none := by
  induction others generalizing field fuel with
  | nil =>
      obtain ⟨key, d⟩ := field
      rw [toList_compactFields_single] at hfuel ⊢
      rw [List.length_append, List.length_cons] at hfuel
      obtain ⟨fuel, rfl⟩ : ∃ n, fuel = n + 1 := ⟨fuel - 1, by omega⟩
      have hd : ReadsBack d := hread (key, d) (List.mem_cons_self ..)
      have hvalue := hd _ fuel limit (.brace rest) (by omega)
      rw [List.append_assoc, List.cons_append, fieldsDepth, fieldsDepth, Nat.max_zero]
      split
      · next hdepth => exact readFields?_last (by rw [hvalue, if_pos hdepth])
      · next hdepth => exact readFields?_none (by rw [hvalue, if_neg hdepth])
  | cons next others ih =>
      obtain ⟨key, d⟩ := field
      rw [toList_compactFields_cons] at hfuel ⊢
      rw [List.length_append, List.length_cons, List.length_append, List.length_cons] at hfuel
      obtain ⟨fuel, rfl⟩ : ∃ n, fuel = n + 1 := ⟨fuel - 1, by omega⟩
      have hothers := ih (fun f hf => hread f (List.mem_cons_of_mem _ hf)) fuel (by omega)
      rw [List.append_assoc, List.cons_append, List.append_assoc, List.cons_append]
      have hd : ReadsBack d := hread (key, d) (List.mem_cons_self ..)
      have hvalue := hd _ fuel limit
        (.comma ((compactFields true (next :: others)).toList ++ '}' :: rest)) (by omega)
      by_cases hdepth : depth d ≤ limit
      · have hiff : fieldsDepth ((key, d) :: next :: others) ≤ limit ↔
            fieldsDepth (next :: others) ≤ limit := by
          rw [fieldsDepth, Nat.max_le, and_iff_right hdepth]
        rw [readFields?_more (by rw [hvalue, if_pos hdepth]), hothers]
        simp only [hiff]
        split
        · rfl
        · rfl
      · rw [readFields?_none (by rw [hvalue, if_neg hdepth]), if_neg]
        rw [fieldsDepth, Nat.max_le]
        exact fun h => hdepth h.1

/-- An exact tree is read from its text unless it is too deep, by induction on the tree. -/
theorem IsExact.readsBack {d : Data} (h : IsExact d) : ReadsBack d := by
  induction h with
  | null => exact readsBack_of_depth_eq_zero rfl fun _ _ _ _ => rfl
  | boolean b => cases b <;> exact readsBack_of_depth_eq_zero rfl fun _ _ _ _ => rfl
  | integer hfits =>
      exact readsBack_of_depth_eq_zero rfl fun _ _ _ hrest => readValue?_integer hfits hrest
  | text s => exact readsBack_of_depth_eq_zero rfl fun _ _ _ _ => readValue?_text s
  | @list items hitems ih =>
      intro rest fuel limit hrest hfuel
      rw [toList_compact_list, List.length_cons, List.length_append, List.length_singleton] at hfuel
      obtain ⟨fuel, rfl⟩ : ∃ n, fuel = n + 1 := ⟨fuel - 1, by omega⟩
      rw [depth]
      cases limit with
      | zero => rw [readValue?_list_zero, if_neg (by omega)]
      | succ limit =>
          simp only [Nat.add_le_add_iff_right]
          cases items with
          | nil => rfl
          | cons item others =>
              obtain ⟨c, after, htext, hc⟩ :=
                exists_compactItems_eq_cons others (hitems item (List.mem_cons_self ..))
              rw [readValue?_list htext hc,
                readItems?_compact hitems ih rest fuel limit (by omega)]
              split
              · rfl
              · rfl
  | @record fields hkeys hfields ih =>
      intro rest fuel limit hrest hfuel
      rw [toList_compact_record, List.length_cons, List.length_append, List.length_singleton]
        at hfuel
      obtain ⟨fuel, rfl⟩ : ∃ n, fuel = n + 1 := ⟨fuel - 1, by omega⟩
      rw [depth]
      cases limit with
      | zero => rw [readValue?_record_zero, if_neg (by omega)]
      | succ limit =>
          simp only [Nat.add_le_add_iff_right]
          cases fields with
          | nil => rfl
          | cons field others =>
              obtain ⟨after, htext⟩ := exists_compactFields_eq_cons field others
              rw [readValue?_record htext, readFields?_compact ih rest fuel limit (by omega)]
              split
              · simp only [Option.map_some, OrderedMap.entries_ofList hkeys]
              · rfl

/-- The text of an exact tree on one line gives the tree back, exactly if it is not nested deeper
than texts may be. -/
theorem parse?_compact {d : Data} (h : IsExact d) :
    parse? (compact d) = if depth d ≤ maxDepth then some d else none := by
  have hread := h.readsBack [] (2 * (compact d).toList.length + 1) maxDepth .nil (by omega)
  rw [List.append_nil] at hread
  rw [parse?, Option.bind_eq_bind, hread]
  split
  · rfl
  · rfl

/-- Different exact trees have different texts, however deep they are. -/
theorem IsExact.eq_of_compact_eq {d d' : Data} (h : IsExact d) (h' : IsExact d')
    (htext : compact d = compact d') : d = d' := by
  -- one reader that may go deep enough for both trees
  let limit := max (depth d) (depth d')
  have hread := h.readsBack [] (2 * (compact d).toList.length) limit .nil (by omega)
  have hread' := h'.readsBack [] (2 * (compact d').toList.length) limit .nil (by omega)
  rw [if_pos (Nat.le_max_left ..)] at hread
  rw [if_pos (Nat.le_max_right ..), ← htext, hread] at hread'
  injection hread' with hsame
  injection hsame

end Stubsmith.Json
