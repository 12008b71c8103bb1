import Mathlib.Data.List.DropRight
import Stubsmith.Proofs.Path

/-!
# The path above a path

`Path.parent?` works on the text of a path. For a disk it takes one step back: the names of the
parent are those of the path without the last one and the dots before it (`Path.IsParent`). Nothing
is left behind that last name if the path is trimmed, that is, ends in no dots or slashes, as is the
case for every parent.
-/

namespace Stubsmith.Path

/-! ## Trimming segments -/

/-- A segment that names nothing. -/
def IsBlank (segment : String) : Bool :=
  segment = "" || segment = "."

/-- The names among segments. -/
def namesOf (segments : List String) : List String :=
  segments.filter (· ≠ "")

/-- The segments of the parent: those before the last one that names something. -/
def above (segments : List String) : List String :=
  trimRight (trimRight segments).dropLast

section

variable {segments : List String}

theorem trimRight_eq (segments : List String) : trimRight segments = segments.rdropWhile IsBlank :=
  rfl

theorem trimRight_trimRight (segments : List String) :
    trimRight (trimRight segments) = trimRight segments :=
  List.rdropWhile_idempotent IsBlank segments

theorem trimRight_eq_self_iff :
    trimRight segments = segments ↔
      ∀ last, segments.getLast? = some last → IsBlank last = false := by
  rw [trimRight_eq, List.rdropWhile_eq_self_iff]
  constructor
  · intro h last hlast
    obtain ⟨hne, rfl⟩ := List.mem_getLast?_eq_getLast hlast
    simpa using h hne
  · intro h hne
    simpa using h _ (List.getLast?_eq_some_getLast hne)

/-- Segments that end in something else than a blank stay so without the first of them. -/
theorem trimRight_tail (h : trimRight segments = segments) :
    trimRight segments.tail = segments.tail := by
  rw [trimRight_eq_self_iff] at h ⊢
  intro last hlast
  rw [List.getLast?_tail] at hlast
  split at hlast
  · cases hlast
  · exact h last hlast

/-- Segments stay as they are if those behind the first one do and not all are blanks. -/
theorem trimRight_of_tail (hne : trimRight segments ≠ [])
    (h : trimRight segments.tail = segments.tail) : trimRight segments = segments := by
  rw [trimRight_eq_self_iff] at h ⊢
  intro last hlast
  rw [List.getLast?_tail] at h
  split at h
  · next hsingle =>
      obtain ⟨first, rfl⟩ := List.length_eq_one_iff.mp hsingle
      injection hlast with hlast
      subst hlast
      rw [trimRight_eq, List.rdropWhile_singleton] at hne
      simpa using hne
  · exact h last hlast

theorem above_isPrefix (segments : List String) : above segments <+: segments :=
  (List.rdropWhile_prefix IsBlank _).trans
    ((List.dropLast_prefix _).trans (List.rdropWhile_prefix IsBlank segments))

theorem namesOf_append (front rest : List String) :
    namesOf (front ++ rest) = namesOf front ++ namesOf rest :=
  List.filter_append ..

theorem eq_dot_of_mem_namesOf (h : ∀ s ∈ segments, IsBlank s = true) :
    ∀ name ∈ namesOf segments, name = "." := by
  intro name hname
  obtain ⟨hmem, hne⟩ := List.mem_filter.mp hname
  have hblank := h name hmem
  simp only [IsBlank, Bool.or_eq_true, decide_eq_true_eq] at hblank
  exact hblank.resolve_left (by simpa using hne)

/-- Only blanks are removed from the end of segments. -/
theorem exists_eq_trimRight_append (segments : List String) :
    ∃ blanks, segments = trimRight segments ++ blanks ∧ ∀ s ∈ blanks, IsBlank s = true :=
  ⟨segments.rtakeWhile IsBlank, List.rdropWhile_append_rtakeWhile.symm,
    fun _ hs => List.mem_rtakeWhile_imp hs⟩

/-- The names of segments are those of the parent, dots, one more name, and dots again. -/
theorem exists_namesOf_eq (h : trimRight segments ≠ []) :
    ∃ dots last behind,
      namesOf segments = namesOf (above segments) ++ dots ++ [last] ++ behind ∧
      (∀ name ∈ dots, name = ".") ∧ last ≠ "." ∧
      (trimRight segments = segments → behind = []) := by
  obtain ⟨blanks, hsegments, _⟩ := exists_eq_trimRight_append segments
  obtain ⟨init, last, htrimmed⟩ := (List.eq_nil_or_concat' (trimRight segments)).resolve_left h
  obtain ⟨between, hinit, hbetween⟩ := exists_eq_trimRight_append init
  have habove : above segments = trimRight init := by
    rw [above, htrimmed, List.dropLast_concat]
  have hlast : last ≠ "" ∧ last ≠ "." := by
    have hself := trimRight_eq_self_iff.mp (trimRight_trimRight segments) last
    rw [htrimmed] at hself
    simpa [IsBlank] using hself
  -- behind `last` stand the blanks trimmed first, before it those trimmed from the parent
  refine ⟨namesOf between, last, namesOf blanks, ?_, eq_dot_of_mem_namesOf hbetween, hlast.2, ?_⟩
  · rw [habove]
    conv_lhs => rw [hsegments, htrimmed, hinit]
    simp only [namesOf_append]
    congr 2
    simp [namesOf, hlast.1]
  · intro hself
    rw [hself] at hsegments
    have hblanks : blanks = [] := by simpa using hsegments
    rw [hblanks]
    rfl

end

/-! ## Parents -/

/-- Whether the path ends in a segment that is no blank, or has a single segment. -/
def IsTrimmed (p : Path) : Prop :=
  trimRight p.segments.tail = p.segments.tail

/-- What the parent of a path has to do with the path. -/
structure IsParent (parent p : Path) : Prop where
  names : ∃ dots last behind, p.names = parent.names ++ dots ++ [last] ++ behind ∧
    (∀ name ∈ dots, name = ".") ∧ (p.segments.head? ≠ some "." → last ≠ ".") ∧
    (p.IsTrimmed → behind = [])
  isAbsolute : parent.isAbsolute = p.isAbsolute
  text : ∃ rest, p.text = parent.text ++ rest
  trimmed : parent.parent? = none ∨ parent.IsTrimmed

section

variable {p parent : Path}

/-- The text of the first segments is the first part of the text. -/
theorem exists_text_append (front rest : List String) :
    ∃ behind, (⟨front ++ rest⟩ : Path).text = (⟨front⟩ : Path).text ++ behind := by
  induction front with
  | nil => exact ⟨_, String.empty_append.symm⟩
  | cons first front ih =>
      obtain ⟨behind, hbehind⟩ := ih
      rw [text, text] at hbehind ⊢
      cases front with
      | cons second front =>
          refine ⟨behind, ?_⟩
          simp only [List.cons_append, String.intercalate_cons_cons] at hbehind ⊢
          rw [hbehind]
          simp only [String.append_assoc]
      | nil =>
          cases rest with
          | nil => exact ⟨"", String.append_empty.symm⟩
          | cons next rest =>
              refine ⟨"/" ++ "/".intercalate (next :: rest), ?_⟩
              simp only [List.cons_append, List.nil_append, String.intercalate_cons_cons,
                String.intercalate_singleton, String.append_assoc]

theorem isAbsolute_of_isPrefix {front segments : List String} (h : front <+: segments)
    (hsegments : (⟨segments⟩ : Path).isAbsolute = false) :
    (⟨front⟩ : Path).isAbsolute = false := by
  obtain ⟨rest, rfl⟩ := h
  by_contra hfront
  unfold isAbsolute at hfront hsegments
  split at hfront
  · next heq =>
      simp only at heq
      subst heq
      cases hsegments
  · simp at hfront

/-! The parent of a path from the root, of one that begins with a dot, and of any other one. -/

theorem segments_cases (segments : List String) :
    (∃ rest, rest ≠ [] ∧ segments = "" :: rest) ∨ (∃ rest, segments = "." :: rest) ∨
      (⟨segments⟩ : Path).isAbsolute = false ∧ segments.head? ≠ some "." := by
  by_cases hroot : (⟨segments⟩ : Path).isAbsolute = true
  · left
    unfold isAbsolute at hroot
    split at hroot
    · next first rest heq => exact ⟨first :: rest, List.cons_ne_nil first rest, heq⟩
    · cases hroot
  by_cases hcurrent : segments.head? = some "."
  · exact Or.inr (Or.inl (List.head?_eq_some_iff.mp hcurrent))
  · exact Or.inr (Or.inr ⟨by simpa using hroot, hcurrent⟩)

theorem parent?_root {rest : List String} (hrest : rest ≠ []) :
    (⟨"" :: rest⟩ : Path).parent?
      = if trimRight rest = [] then none
        else if above rest = [] then some ⟨["", ""]⟩ else some ⟨"" :: above rest⟩ := by
  cases rest with
  | nil => exact absurd rfl hrest
  | cons first rest =>
      unfold parent? above
      simp only
      split
      · next htrimmed => rw [if_pos htrimmed]
      · next htrimmed =>
          rw [if_neg htrimmed]
          split
          · next habove => rw [if_pos habove]
          · next habove => rw [if_neg habove]

theorem parent?_current (rest : List String) :
    (⟨"." :: rest⟩ : Path).parent?
      = if trimRight rest = [] then some empty else some ⟨"." :: above rest⟩ := by
  simp only [parent?, above]
  cases trimRight rest <;> rfl

theorem parent?_relative {segments : List String}
    (hroot : (⟨segments⟩ : Path).isAbsolute = false) (hcurrent : segments.head? ≠ some ".") :
    (⟨segments⟩ : Path).parent?
      = if trimRight segments = [] then none
        else if above segments = [] then some empty else some ⟨above segments⟩ := by
  unfold parent? above
  split
  · next heq =>
      simp only at heq
      subst heq
      cases hroot
  · next heq =>
      simp only at heq
      subst heq
      exact absurd rfl hcurrent
  · split
    · next htrimmed => rw [if_pos htrimmed]
    · next htrimmed =>
        rw [if_neg htrimmed]
        split
        · next habove => rw [if_pos habove]
        · next habove => rw [if_neg habove]

theorem isTrimmed_cons_above (first : String) (segments : List String) :
    (⟨first :: above segments⟩ : Path).IsTrimmed :=
  trimRight_trimRight _

theorem isTrimmed_above (segments : List String) : (⟨above segments⟩ : Path).IsTrimmed :=
  trimRight_tail (trimRight_trimRight _)

theorem exists_text_append_above (front segments : List String) :
    ∃ behind,
      (⟨front ++ segments⟩ : Path).text
        = (⟨front ++ above segments⟩ : Path).text ++ behind := by
  obtain ⟨rest, hrest⟩ := above_isPrefix segments
  obtain ⟨behind, hbehind⟩ := exists_text_append (front ++ above segments) rest
  rw [List.append_assoc, hrest] at hbehind
  exact ⟨behind, hbehind⟩

/-- The parent of a path from the root. -/
theorem isParent_root {rest : List String} (hrest : rest ≠ [])
    (h : (⟨"" :: rest⟩ : Path).parent? = some parent) : IsParent parent ⟨"" :: rest⟩ := by
  have habsolute : (⟨"" :: rest⟩ : Path).isAbsolute = true := by
    cases rest with
    | nil => exact absurd rfl hrest
    | cons first rest => rfl
  rw [parent?_root hrest] at h
  split at h
  · cases h
  next hne =>
  obtain ⟨dots, last, behind, hnames, hdots, hlast, hbehind⟩ := exists_namesOf_eq hne
  split at h
  · next habove =>
      injection h with h
      subst h
      rw [habove] at hnames
      refine ⟨⟨dots, last, behind, hnames, hdots, fun _ => hlast, hbehind⟩, habsolute.symm, ?_,
        Or.inl rfl⟩
      obtain ⟨first, rest, rfl⟩ := List.exists_cons_of_ne_nil hrest
      refine ⟨"/".intercalate (first :: rest), ?_⟩
      simp [text, String.intercalate_cons_cons]
  · next habove =>
      injection h with h
      subst h
      refine ⟨⟨dots, last, behind, hnames, hdots, fun _ => hlast, hbehind⟩, ?_,
        exists_text_append_above [""] rest, Or.inr (isTrimmed_cons_above "" rest)⟩
      obtain ⟨first, rest, hcons⟩ := List.exists_cons_of_ne_nil habove
      rw [habsolute, hcons]
      rfl

/-- The parent of a path that begins with a dot. -/
theorem isParent_current {rest : List String}
    (h : (⟨"." :: rest⟩ : Path).parent? = some parent) : IsParent parent ⟨"." :: rest⟩ := by
  rw [parent?_current] at h
  split at h
  · next hblank =>
      injection h with h
      subst h
      refine ⟨⟨[], ".", namesOf rest, rfl, nofun, fun hdot => absurd rfl hdot, ?_⟩, rfl,
        ⟨_, String.empty_append.symm⟩, Or.inl rfl⟩
      intro htrimmed
      have hrest : rest = [] := htrimmed.symm.trans hblank
      rw [hrest]
      rfl
  · next hne =>
      injection h with h
      subst h
      obtain ⟨dots, last, behind, hnames, hdots, hlast, hbehind⟩ := exists_namesOf_eq hne
      exact ⟨⟨dots, last, behind, congrArg ("." :: ·) hnames, hdots, fun _ => hlast, hbehind⟩, rfl,
        exists_text_append_above ["."] rest, Or.inr (isTrimmed_cons_above "." rest)⟩

/-- The parent of any other path. -/
theorem isParent_relative {segments : List String}
    (hroot : (⟨segments⟩ : Path).isAbsolute = false) (hcurrent : segments.head? ≠ some ".")
    (h : (⟨segments⟩ : Path).parent? = some parent) :
    IsParent parent ⟨segments⟩ := by
  rw [parent?_relative hroot hcurrent] at h
  split at h
  · cases h
  next hne =>
  obtain ⟨dots, last, behind, hnames, hdots, hlast, hbehind⟩ := exists_namesOf_eq hne
  -- the empty path stands for a parent without segments
  have hparent : parent.names = namesOf (above segments) ∧ parent.isAbsolute = false ∧
      (∃ rest, (⟨segments⟩ : Path).text = parent.text ++ rest) ∧
      (parent.parent? = none ∨ parent.IsTrimmed) := by
    split at h
    · next habove =>
        injection h with h
        subst h
        rw [habove]
        exact ⟨rfl, rfl, ⟨_, String.empty_append.symm⟩, Or.inl rfl⟩
    · injection h with h
      subst h
      exact ⟨rfl, isAbsolute_of_isPrefix (above_isPrefix segments) hroot,
        exists_text_append_above [] segments, Or.inr (isTrimmed_above segments)⟩
  obtain ⟨hparentNames, habsolute, htext, htrimmed⟩ := hparent
  refine ⟨⟨dots, last, behind, ?_, hdots, fun _ => hlast, ?_⟩, habsolute.trans hroot.symm, htext,
    htrimmed⟩
  · rw [hparentNames]
    exact hnames
  · exact fun h => hbehind (trimRight_of_tail hne h)

/-- A path that has a parent is, for the disk, one step further than that. -/
theorem isParent_of_parent?_eq_some (h : p.parent? = some parent) : IsParent parent p := by
  obtain ⟨segments⟩ := p
  rcases segments_cases segments with ⟨rest, hrest, rfl⟩ | ⟨rest, rfl⟩ | ⟨hroot, hcurrent⟩
  · exact isParent_root hrest h
  · exact isParent_current h
  · exact isParent_relative hroot hcurrent h

/-- A path with an empty text has no names. -/
theorem names_of_text_eq_empty (h : p.text = "") : p.names = [] := by
  obtain ⟨segments⟩ := p
  rw [text] at h
  cases segments with
  | nil => rfl
  | cons first rest =>
      cases rest with
      | nil =>
          rw [String.intercalate_singleton] at h
          simp [names, h]
      | cons second rest =>
          rw [String.intercalate_cons_cons] at h
          simp at h

/-- A path without a parent names nothing. -/
theorem eq_dot_of_parent?_eq_none (h : p.parent? = none) : ∀ name ∈ p.names, name = "." := by
  have hblank {segments : List String} (htrimmed : trimRight segments = []) :
      ∀ name ∈ namesOf segments, name = "." := by
    obtain ⟨blanks, hblanks, hall⟩ := exists_eq_trimRight_append segments
    rw [htrimmed, List.nil_append] at hblanks
    exact eq_dot_of_mem_namesOf (hblanks ▸ hall)
  obtain ⟨segments⟩ := p
  rcases segments_cases segments with ⟨rest, hrest, rfl⟩ | ⟨rest, rfl⟩ | ⟨hroot, hcurrent⟩
  · rw [parent?_root hrest] at h
    split at h
    · next htrimmed =>
        show ∀ name ∈ namesOf rest, name = "."
        exact hblank htrimmed
    · split at h <;> cases h
  · rw [parent?_current] at h
    split at h <;> cases h
  · rw [parent?_relative hroot hcurrent] at h
    split at h
    · next htrimmed => exact hblank htrimmed
    · split at h <;> cases h

/-! ## The end of a path -/

/-- Unless the text ends in a slash, it ends in the last name. -/
theorem getLast?_names (hslash : p.endsInSlash = false) (hne : p.names ≠ []) :
    p.names.getLast? = p.segments.getLast? := by
  obtain ⟨segments⟩ := p
  rcases List.eq_nil_or_concat' segments with rfl | ⟨init, last, rfl⟩
  · exact absurd rfl hne
  by_cases hlast : last = ""
  · subst hlast
    cases init with
    | nil => exact absurd rfl hne
    | cons first rest => simp [endsInSlash, List.getLast?_cons] at hslash
  · simp [names, hlast]

/-- Behind a last name that is no dot there is nothing to trim. -/
theorem isTrimmed_of_names {init : List String} {last : String} (hslash : p.endsInSlash = false)
    (hnames : p.names = init ++ [last]) (hlast : last ≠ ".") : p.IsTrimmed := by
  refine trimRight_tail (trimRight_eq_self_iff.mpr ?_)
  intro segment hsegment
  have hmem : last ∈ p.names := by simp [hnames]
  rw [← getLast?_names hslash (by simp [hnames]), hnames, List.getLast?_concat,
    Option.some.injEq] at hsegment
  subst hsegment
  simp [IsBlank, hlast, show last ≠ "" by simpa using (List.mem_filter.mp hmem).2]

/-! ## Ancestors -/

theorem ancestorsUpTo_of_parent?_eq_none (h : p.parent? = none) (fuel : Nat) :
    p.ancestorsUpTo fuel = [p] := by
  cases fuel with
  | zero => rfl
  | succ fuel => rw [ancestorsUpTo, h]

/-- The names of an ancestor are the first names of the path. -/
theorem names_isPrefix_of_mem_ancestorsUpTo {fuel : Nat} {q : Path}
    (h : q ∈ p.ancestorsUpTo fuel) :
    q.names <+: p.names ∧ q.isAbsolute = p.isAbsolute := by
  induction fuel generalizing p with
  | zero =>
      rw [ancestorsUpTo, List.mem_singleton] at h
      rw [h]
      exact ⟨List.prefix_rfl, rfl⟩
  | succ fuel ih =>
      rw [ancestorsUpTo] at h
      split at h
      · rw [List.mem_singleton] at h
        rw [h]
        exact ⟨List.prefix_rfl, rfl⟩
      · next parent hparent =>
          rcases List.mem_cons.mp h with rfl | hmem
          · exact ⟨List.prefix_rfl, rfl⟩
          · have hp := isParent_of_parent?_eq_some hparent
            obtain ⟨dots, last, behind, hnames, _⟩ := hp.names
            obtain ⟨hbelow, habsolute⟩ := ih hmem
            refine ⟨hbelow.trans ?_, habsolute.trans hp.isAbsolute⟩
            rw [hnames]
            simp only [List.append_assoc]
            exact List.prefix_append _ _

end

end Stubsmith.Path
