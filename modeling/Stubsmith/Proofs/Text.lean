import Mathlib.Data.List.Basic
import Stubsmith.Text.Search
import Stubsmith.Text.Split

/-!
# Cutting a text and finding in it

The pieces of a text give the text back when they are joined with the separator
(`Text.intercalate_split`). The place that is found for a pattern is the one of its leftmost
occurrence, in bytes (`Text.exists_firstBehind_of_find?`), and no place is found exactly if the
pattern does not occur (`Text.find?_eq_none_iff`).
-/

namespace Stubsmith.Text

/-! ## Cutting -/

/-- A text without the separator is its only piece. -/
theorem split_of_not_mem {separator : Char} {s : String} (h : separator ∉ s.toList) :
    split separator s = [s] := by
  rw [split, List.splitOn_eq_singleton h, List.map_singleton, String.ofList_toList]

/-- There is always a piece. -/
theorem split_ne_nil (separator : Char) (s : String) : split separator s ≠ [] := by
  rw [split, ne_eq, List.map_eq_nil_iff]
  exact List.splitOn_ne_nil separator s.toList

/-- The pieces, joined with the separator. -/
theorem intercalate_split (separator : Char) (s : String) :
    (String.singleton separator).intercalate (split separator s) = s := by
  apply String.toList_inj.mp
  rw [String.toList_intercalate, split, List.map_map]
  simp only [Function.comp_def, String.toList_ofList, List.map_id', String.toList_singleton]
  exact List.intercalate_splitOn separator

/-- A text is known from its pieces. -/
theorem split_injective (separator : Char) : Function.Injective (split separator) := by
  intro s t h
  rw [← intercalate_split separator s, h, intercalate_split]

/-! ## Occurrences -/

/-- The pattern occurs in the text behind `before`. -/
def OccursBehind (pattern text before : String) : Prop :=
  ∃ after, text = before ++ pattern ++ after

/-- The pattern occurs in the text. -/
def Occurs (pattern text : String) : Prop :=
  ∃ before, OccursBehind pattern text before

/-- The leftmost occurrence of the pattern in the text is the one behind `before`. -/
structure FirstBehind (pattern text before : String) : Prop where
  occurs : OccursBehind pattern text before
  size_le : ∀ other, OccursBehind pattern text other → before.utf8ByteSize ≤ other.utf8ByteSize

theorem occursBehind_iff_toList {pattern text before : String} :
    OccursBehind pattern text before
      ↔ before.toList ++ pattern.toList <+: text.toList := by
  constructor
  · rintro ⟨after, rfl⟩
    exact ⟨after.toList, by simp⟩
  · rintro ⟨after, h⟩
    refine ⟨String.ofList after, String.toList_inj.mp ?_⟩
    simpa using h.symm

/-! ## Finding -/

/-- The bytes of a text are those of its characters. -/
theorem byteLength_toList (s : String) : byteLength s.toList = s.utf8ByteSize := by
  have hchars : ∀ cs : List Char, byteLength cs = (String.ofList cs).utf8ByteSize := by
    intro cs
    induction cs with
    | nil => rfl
    | cons c rest ih =>
        rw [byteLength, ih, ← List.singleton_append, String.ofList_append,
          String.utf8ByteSize_append, ← String.singleton_eq_ofList, String.utf8ByteSize_singleton]
  rw [hchars, String.ofList_toList]

/-- A pattern occurs in a text with a first character at once, or in the rest of it. -/
theorem append_isPrefix_cons_iff {pattern before rest : List Char} {c : Char} :
    before ++ pattern <+: c :: rest
      ↔ (before = [] ∧ pattern <+: c :: rest)
        ∨ ∃ more, before = c :: more ∧ more ++ pattern <+: rest := by
  cases before with
  | nil => simp
  | cons x more => simp [List.cons_prefix_cons]

/-- No place is found exactly if the pattern begins nowhere in the text. -/
theorem findFrom_eq_none_iff {pattern text : List Char} {offset : Nat} :
    findFrom pattern offset text = none ↔ ∀ before, ¬ before ++ pattern <+: text := by
  induction text generalizing offset with
  | nil => simp [findFrom]
  | cons c rest ih =>
      rw [findFrom]
      by_cases hstart : pattern <+: c :: rest
      · rw [if_pos (List.isPrefixOf_iff_prefix.mpr hstart)]
        exact iff_of_false nofun fun h => h [] hstart
      · rw [if_neg (mt List.isPrefixOf_iff_prefix.mp hstart), ih]
        constructor
        · intro h before hbefore
          rcases append_isPrefix_cons_iff.mp hbefore with ⟨-, hat⟩ | ⟨more, -, hmore⟩
          · exact hstart hat
          · exact h more hmore
        · intro h more hmore
          exact h (c :: more) (append_isPrefix_cons_iff.mpr (.inr ⟨more, rfl, hmore⟩))

/-- A place that is found is the leftmost one. -/
theorem exists_of_findFrom_eq_some {pattern text : List Char} {offset found : Nat}
    (h : findFrom pattern offset text = some found) :
    ∃ before, before ++ pattern <+: text ∧ found = offset + byteLength before ∧
      ∀ other, other ++ pattern <+: text → byteLength before ≤ byteLength other := by
  induction text generalizing offset with
  | nil =>
      rw [findFrom] at h
      split at h
      next hempty =>
        cases h
        refine ⟨[], ?_, rfl, fun other _ => Nat.zero_le _⟩
        rw [List.isEmpty_iff.mp hempty]
        exact List.prefix_rfl
      next => cases h
  | cons c rest ih =>
      rw [findFrom] at h
      split at h
      next hstart =>
        cases h
        exact ⟨[], List.isPrefixOf_iff_prefix.mp hstart, rfl, fun other _ => Nat.zero_le _⟩
      next hstart =>
        obtain ⟨more, hmore, hfound, hleast⟩ := ih h
        refine ⟨c :: more, append_isPrefix_cons_iff.mpr (.inr ⟨more, rfl, hmore⟩), ?_, ?_⟩
        · rw [hfound, byteLength, Nat.add_assoc]
        · intro other hother
          rcases append_isPrefix_cons_iff.mp hother with ⟨-, hat⟩ | ⟨rest', rfl, hrest⟩
          · exact absurd (List.isPrefixOf_iff_prefix.mpr hat) hstart
          · exact Nat.add_le_add_left (hleast rest' hrest) c.utf8Size

/-- **No place is found exactly if the pattern does not occur.** -/
theorem find?_eq_none_iff {pattern text : String} :
    find? pattern text = none ↔ ¬ Occurs pattern text := by
  rw [find?, findFrom_eq_none_iff, Occurs, not_exists]
  constructor
  · intro h before hbefore
    exact h before.toList (occursBehind_iff_toList.mp hbefore)
  · intro h before hbefore
    rw [← String.toList_ofList (l := before)] at hbefore
    exact h _ (occursBehind_iff_toList.mpr hbefore)

/-- **The place that is found is the leftmost one.** -/
theorem exists_firstBehind_of_find? {pattern text : String} {offset : Nat}
    (h : find? pattern text = some offset) :
    ∃ before, FirstBehind pattern text before ∧ offset = before.utf8ByteSize := by
  obtain ⟨before, hbefore, hoffset, hleast⟩ := exists_of_findFrom_eq_some h
  rw [← String.toList_ofList (l := before)] at hbefore hoffset hleast
  rw [Nat.zero_add, byteLength_toList] at hoffset
  refine ⟨String.ofList before, ⟨occursBehind_iff_toList.mpr hbefore, ?_⟩, hoffset⟩
  intro other hother
  simpa only [byteLength_toList] using hleast other.toList (occursBehind_iff_toList.mp hother)

end Stubsmith.Text
