import Mathlib.Data.List.Basic
import Stubsmith.Text.Mismatch

/-!
# What a comparison of two texts tells

Equal texts have no message. The message about two others lists, in ascending order, the lines at
which the two differ, or says that only the ends of lines do (`mismatch?_lists_differences`). One
difference escapes it: a line that only one of the texts has is not told from a missing one if it
reads like what stands for a missing one (`surplusMark_not_listed`).

Lines are numbered from one in a message and counted from zero here.
-/

namespace Stubsmith.Text

/-! ## Differences between lines -/

/-- At this place the texts have different lines, or only one of them has a line. -/
def DiffersAt (expected actual : List String) (i : Nat) : Prop :=
  expected[i]? ≠ actual[i]?

/-- Only one of the texts has a line at this place, and that line reads like what stands for a
missing one. -/
def IsMasked (expected actual : List String) (i : Nat) : Prop :=
  (expected[i]? = some missingLine ∧ actual[i]? = none)
    ∨ (expected[i]? = none ∧ actual[i]? = some missingLine)

instance (expected actual : List String) (i : Nat) : Decidable (DiffersAt expected actual i) :=
  inferInstanceAs (Decidable (expected[i]? ≠ actual[i]?))

instance (expected actual : List String) (i : Nat) : Decidable (IsMasked expected actual i) :=
  inferInstanceAs (Decidable (_ ∨ _))

/-- The line at a place, or what stands for a missing one. -/
def shownLine (lines : List String) (i : Nat) : String :=
  lines[i]?.getD missingLine

/-- The message that lists the lines at the given places. -/
def listingMessage (expected actual : List String) (places : List Nat) : String :=
  "Content mismatch:\n" ++ String.join (places.map fun i =>
    "Line " ++ toString (i + 1) ++ ":\n  expected: " ++ shownLine expected i
      ++ "\n  actual:   " ++ shownLine actual i ++ "\n")

/-- The message that lists no line. -/
def endingsMessage : String :=
  "Content mismatch:\n" ++ "  (contents differ only in line endings)\n"

/-- What the message about two texts with these lines tells: the places of visible differences, in
ascending order, with the lines there. Only if there is none, it speaks of the ends of lines. -/
structure TellsDifferences (expected actual : List String) (places : List Nat)
    (message : String) : Prop where
  ascending : places.Pairwise (· < ·)
  mem_iff : ∀ i, i ∈ places ↔ DiffersAt expected actual i ∧ ¬ IsMasked expected actual i
  message_eq : places ≠ [] → message = listingMessage expected actual places
  endings_iff : message = endingsMessage ↔ places = []

section

variable {expected actual : List String}

/-- The shown lines differ if the lines do, unless the difference is masked. -/
theorem shownLine_ne_iff {i : Nat} :
    shownLine expected i ≠ shownLine actual i
      ↔ DiffersAt expected actual i ∧ ¬ IsMasked expected actual i := by
  unfold shownLine DiffersAt IsMasked
  cases expected[i]? <;> cases actual[i]? <;> simp [eq_comm]

/-- Lines that are the same everywhere are the same. -/
theorem eq_iff_forall_not_differsAt :
    expected = actual ↔ ∀ i, ¬ DiffersAt expected actual i := by
  simp only [DiffersAt, ne_eq, not_not]
  exact ⟨fun h i => by rw [h], List.ext_getElem?⟩

theorem shownLine_tail (lines : List String) (i : Nat) :
    shownLine lines.tail i = shownLine lines (i + 1) := by
  rw [shownLine, shownLine, List.getElem?_tail]

/-! ## The places that are listed -/

/-- The places at which the shown lines differ. -/
def visiblePlaces (expected actual : List String) : List Nat :=
  (List.range (max expected.length actual.length)).filter
    fun i => shownLine expected i ≠ shownLine actual i

theorem mem_visiblePlaces_iff {i : Nat} :
    i ∈ visiblePlaces expected actual
      ↔ DiffersAt expected actual i ∧ ¬ IsMasked expected actual i := by
  rw [visiblePlaces, List.mem_filter, List.mem_range, decide_eq_true_eq, shownLine_ne_iff]
  refine and_iff_right_of_imp fun h => ?_
  by_contra hlong
  -- beyond both texts there is no line to differ
  refine h.1 ?_
  rw [List.getElem?_eq_none (by omega), List.getElem?_eq_none (by omega)]

theorem ite_cons_eq_append {α : Type} (p : Prop) [Decidable p] (a : α) (rest : List α) :
    (if p then rest else a :: rest) = (if p then [] else [a]) ++ rest := by
  split <;> rfl

/-- A comparison looks at the first lines and goes on with the others. -/
theorem differences_step (number : Nat) (h : 0 < max expected.length actual.length) :
    differences number expected actual
      = (if shownLine expected 0 = shownLine actual 0 then []
          else [(number, shownLine expected 0, shownLine actual 0)])
        ++ differences (number + 1) expected.tail actual.tail := by
  rw [← ite_cons_eq_append]
  cases expected with
  | nil =>
      cases actual with
      | nil => simp at h
      | cons a rest =>
          rw [differences, if_congr eq_comm rfl rfl]
          rfl
  | cons e rest =>
      cases actual with
      | nil =>
          rw [differences]
          rfl
      | cons a others =>
          rw [differences]
          rfl

/-- The places behind the first are those of the other lines. -/
theorem visiblePlaces_step (h : 0 < max expected.length actual.length) :
    visiblePlaces expected actual
      = (if shownLine expected 0 = shownLine actual 0 then [] else [0])
        ++ (visiblePlaces expected.tail actual.tail).map (· + 1) := by
  obtain ⟨n, hn⟩ := Nat.exists_eq_add_one.mpr h
  have htail : max expected.tail.length actual.tail.length = n := by
    rw [List.length_tail, List.length_tail]
    omega
  rw [visiblePlaces, visiblePlaces, hn, htail, List.range_succ_eq_map, List.filter_cons,
    List.filter_map]
  simp only [Function.comp_def, shownLine_tail, Nat.succ_eq_add_one]
  split <;> simp_all

/-- The differences are told in the order of their places. -/
theorem differences_eq (number : Nat) (expected actual : List String) :
    differences number expected actual
      = (visiblePlaces expected actual).map
          fun i => (number + i, shownLine expected i, shownLine actual i) := by
  generalize hn : max expected.length actual.length = n
  induction n generalizing number expected actual with
  | zero =>
      obtain rfl : expected = [] := List.eq_nil_of_length_eq_zero (by omega)
      obtain rfl : actual = [] := List.eq_nil_of_length_eq_zero (by omega)
      rw [differences]
      rfl
  | succ n ih =>
      have hpos : 0 < max expected.length actual.length := by omega
      have htail : max expected.tail.length actual.tail.length = n := by
        rw [List.length_tail, List.length_tail]
        omega
      rw [differences_step number hpos, visiblePlaces_step hpos, ih (number + 1) _ _ htail,
        List.map_append, List.map_map]
      congr 1
      · split <;> rfl
      · apply List.map_congr_left
        intro i _
        simp only [Function.comp_apply, shownLine_tail, Nat.add_assoc, Nat.add_comm 1 i]

end

/-! ## The message -/

/-- A message that lists a line does not speak of the ends of lines. -/
theorem listingMessage_ne_endingsMessage (expected actual : List String) (i : Nat)
    (places : List Nat) : listingMessage expected actual (i :: places) ≠ endingsMessage := by
  intro h
  have hline (rest : String) : ("Line " ++ rest).toList.head? = some 'L' := by
    rw [String.toList_append]
    rfl
  have hendings : "  (contents differ only in line endings)\n".toList.head? = some ' ' := rfl
  unfold endingsMessage listingMessage at h
  rw [String.append_right_inj, List.map_cons, String.join_cons] at h
  simp only [String.append_assoc] at h
  rw [← h, hline] at hendings
  exact absurd hendings (by decide)

/-- The message lists the visible differences if there are any. -/
theorem mismatchMessage_eq (expected actual : String) :
    mismatchMessage expected actual
      = if visiblePlaces (lines expected) (lines actual) = [] then endingsMessage
        else listingMessage (lines expected) (lines actual)
          (visiblePlaces (lines expected) (lines actual)) := by
  unfold mismatchMessage
  rw [differences_eq]
  cases visiblePlaces (lines expected) (lines actual) with
  | nil => rfl
  | cons i rest =>
      rw [if_neg (List.cons_ne_nil i rest)]
      refine congrArg ("Content mismatch:\n" ++ String.join ·) ?_
      rw [List.map_map]
      apply List.map_congr_left
      intro j _
      rw [Function.comp_apply, Nat.add_comm 1 j]
      rfl

/-- The message about two texts lists the visible differences of their lines. -/
theorem tellsDifferences_mismatchMessage (expected actual : String) :
    TellsDifferences (lines expected) (lines actual) (visiblePlaces (lines expected) (lines actual))
      (mismatchMessage expected actual) where
  ascending := List.pairwise_lt_range.filter _
  mem_iff _ := mem_visiblePlaces_iff
  message_eq hne := by rw [mismatchMessage_eq, if_neg hne]
  endings_iff := by
    rw [mismatchMessage_eq]
    cases visiblePlaces (lines expected) (lines actual) with
    | nil => exact iff_of_true (if_pos rfl) rfl
    | cons i rest =>
        rw [if_neg (List.cons_ne_nil i rest)]
        exact iff_of_false (listingMessage_ne_endingsMessage _ _ i rest) (List.cons_ne_nil i rest)

/-- **A comparison lists the lines that differ.** It accepts equal texts only. The message about two
other ones lists, in ascending order and once each, the places at which their lines differ, except
for differences that are masked. If none is, it lists all of them, and it speaks of the ends of
lines exactly if the lines are the same. -/
theorem mismatch?_lists_differences (expected actual : String) :
    (mismatch? expected actual = none ↔ expected = actual) ∧
      (expected ≠ actual → ∃ places message, mismatch? expected actual = some message ∧
        TellsDifferences (lines expected) (lines actual) places message ∧
        ((∀ i, ¬ IsMasked (lines expected) (lines actual) i) →
          (∀ i, i ∈ places ↔ DiffersAt (lines expected) (lines actual) i) ∧
          (message = endingsMessage ↔ lines expected = lines actual))) := by
  constructor
  · rw [mismatch?]
    split <;> simp_all
  · intro hne
    have htold := tellsDifferences_mismatchMessage expected actual
    refine ⟨_, _, by rw [mismatch?, if_neg hne], htold, fun hmasked => ?_⟩
    have hplaces : ∀ i, i ∈ visiblePlaces (lines expected) (lines actual)
        ↔ DiffersAt (lines expected) (lines actual) i := by
      intro i
      rw [htold.mem_iff, and_iff_left (hmasked i)]
    refine ⟨hplaces, ?_⟩
    rw [htold.endings_iff, eq_iff_forall_not_differsAt, List.eq_nil_iff_forall_not_mem]
    exact forall_congr' fun i => not_congr (hplaces i)

/-- Nothing is masked if no line reads like what stands for a missing one. -/
theorem not_isMasked_of_not_mem {expected actual : List String} (h : missingLine ∉ expected)
    (h' : missingLine ∉ actual) (i : Nat) : ¬ IsMasked expected actual i := by
  rintro (⟨hline, -⟩ | ⟨-, hline⟩)
  · exact h (List.mem_of_getElem? hline)
  · exact h' (List.mem_of_getElem? hline)

/-- Of these texts the second has another end in its first line and lacks the third line. The
latter is listed alone. -/
theorem missingLine_listed_alone :
    let expected := "a\r\nb\nc"
    let actual := "a\nb\n"
    expected ≠ actual ∧ (∀ i, ¬ IsMasked (lines expected) (lines actual) i) ∧
      mismatch? expected actual
        = some "Content mismatch:\nLine 3:\n  expected: c\n  actual:   <missing>\n" := by
  intro expected actual
  have hne : expected ≠ actual := by decide
  have hexpected : lines expected = ["a", "b", "c"] := by decide
  have hactual : lines actual = ["a", "b"] := by decide
  have hmasked : ∀ i, ¬ IsMasked (lines expected) (lines actual) i := by
    rw [hexpected, hactual]
    exact not_isMasked_of_not_mem (by decide) (by decide)
  refine ⟨hne, hmasked, ?_⟩
  obtain ⟨places, message, hmessage, htold, htells⟩ :=
    (mismatch?_lists_differences expected actual).2 hne
  have hplaces : ∀ i, i ∈ places ↔ i = 2 := by
    intro i
    rw [(htells hmasked).1 i, hexpected, hactual, DiffersAt]
    rcases i with _ | _ | _ | i <;> simp
  have hsingle : places = [2] := by
    rcases places with _ | ⟨i, _ | ⟨j, rest⟩⟩
    · exact absurd ((hplaces 2).mpr rfl) List.not_mem_nil
    · rw [(hplaces i).mp (by simp)]
    · have hlt := List.rel_of_pairwise_cons htold.ascending (List.mem_cons_self ..)
      rw [(hplaces i).mp (by simp), (hplaces j).mp (by simp)] at hlt
      exact absurd hlt (by decide)
  rw [hmessage, htold.message_eq (by simp [hsingle]), hsingle, hexpected, hactual]
  rfl

/-- **A surplus line can go unlisted.** The first text has a second line that the other one lacks,
but the line reads like what stands for a missing one, and the message speaks of the ends of lines.
-/
theorem surplusMark_not_listed :
    let expected := "a\n<missing>\n"
    let actual := "a\n"
    expected ≠ actual ∧ DiffersAt (lines expected) (lines actual) 1 ∧
      lines expected ≠ lines actual ∧
      mismatch? expected actual
        = some "Content mismatch:\n  (contents differ only in line endings)\n" := by
  intro expected actual
  have hne : expected ≠ actual := by decide
  have hplaces : visiblePlaces (lines expected) (lines actual) = [] := by decide
  refine ⟨hne, by decide, by decide, ?_⟩
  rw [mismatch?, if_neg hne, mismatchMessage_eq, if_pos hplaces]
  rfl

end Stubsmith.Text
