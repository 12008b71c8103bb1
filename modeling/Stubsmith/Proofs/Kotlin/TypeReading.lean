import Stubsmith.Proofs.Kotlin.TypeNormal

/-!
# Reading a type back from its text

Where a text begins with the spelling of a type and a comma or closing bracket comes after it, the
normal form of the type and its end can be told from the text
(`TypeRef.normal_eq_of_spelling_append_eq`), even if parts were not resolved and are left out. The
names in the type must not contain any of the signs that set off its parts from each other. So types
are written alike exactly if they have the same normal form (`TypeRef.writing_decides_normal`).
-/

namespace Stubsmith

open Kotlin

/-! ## Words -/

/-- A word that ends before the first character of another sort is determined by the text it begins,
and so is that character and what follows it. -/
theorem eq_of_append_cons_eq {P : Char → Prop} {v w : List Char} {x y : Char} {r s : List Char}
    (hv : ∀ a ∈ v, P a) (hw : ∀ a ∈ w, P a) (hx : ¬ P x) (hy : ¬ P y)
    (h : v ++ x :: r = w ++ y :: s) : v = w ∧ x = y ∧ r = s := by
  induction v generalizing w with
  | nil =>
      cases w with
      | nil =>
          injection h with hxy hrs
          exact ⟨rfl, hxy, hrs⟩
      | cons b w =>
          -- the sign would be the first character of the other word
          injection h with hxb _
          exact absurd (hxb ▸ hw b List.mem_cons_self) hx
  | cons a v ih =>
      cases w with
      | nil =>
          injection h with hay _
          exact absurd (hay ▸ hv a List.mem_cons_self) hy
      | cons b w =>
          injection h with hab hrest
          obtain ⟨hvw, hxy, hrs⟩ := ih (fun c hc => hv c (List.mem_cons_of_mem a hc))
            (fun c hc => hw c (List.mem_cons_of_mem b hc)) hrest
          exact ⟨by rw [hab, hvw], hxy, hrs⟩

/-- A character that is none of the signs in the text of a type. -/
def IsWordChar (x : Char) : Prop :=
  x ∉ ['<', '>', ',', '?', '*', ' ']

instance (x : Char) : Decidable (IsWordChar x) :=
  inferInstanceAs (Decidable (x ∉ ['<', '>', ',', '?', '*', ' ']))

/-- A name that is there and holds no sign. -/
def IsWord (name : String) : Prop :=
  name ≠ "" ∧ ∀ x ∈ name.toList, IsWordChar x

instance (name : String) : Decidable (IsWord name) :=
  decidable_of_iff (name ≠ "" ∧ name.toList.all (fun x => decide (IsWordChar x)) = true)
    (by simp [IsWord])

/-- A character that does not set off the parts of a type from each other, nor a type from the next
line. -/
def IsNameChar (x : Char) : Prop :=
  x ∉ ['<', '>', ',', '?', '*', ' ', '\n']

instance (x : Char) : Decidable (IsNameChar x) :=
  inferInstanceAs (Decidable (x ∉ ['<', '>', ',', '?', '*', ' ', '\n']))

/-- A name of a type that cannot be taken for anything else. -/
def IsTypeName (name : String) : Prop :=
  name ≠ "" ∧ ∀ x ∈ name.toList, IsNameChar x

instance (name : String) : Decidable (IsTypeName name) :=
  decidable_of_iff (name ≠ "" ∧ name.toList.all (fun x => decide (IsNameChar x)) = true)
    (by simp [IsTypeName])

/-- A name of a type is a word on one line. -/
theorem IsTypeName.isWord {name : String} (h : IsTypeName name) : IsWord name := by
  refine ⟨h.1, ?_⟩
  intro x hx hsign
  exact h.2 x hx (List.mem_append_left ['\n'] hsign)

/-! ## What is spelled of a type -/

mutual

/-- The type with no types at its stars. -/
def TypeRef.starless : TypeRef → TypeRef
  | ⟨name, nullable, arguments⟩ => ⟨name, nullable, TypeRef.starlessArguments arguments⟩

/-- The generic arguments with no types at stars. -/
def TypeRef.starlessArguments : List (Projection TypeRef) → List (Projection TypeRef)
  | [] => []
  | a :: rest => TypeRef.starlessArgument a :: TypeRef.starlessArguments rest

/-- One generic argument with no types at stars. -/
def TypeRef.starlessArgument : Projection TypeRef → Projection TypeRef
  | ⟨.star, _⟩ => ⟨.star, none⟩
  | ⟨.invariant, type⟩ => ⟨.invariant, TypeRef.starlessType type⟩
  | ⟨.covariant, type⟩ => ⟨.covariant, TypeRef.starlessType type⟩
  | ⟨.contravariant, type⟩ => ⟨.contravariant, TypeRef.starlessType type⟩

/-- The type of a generic argument with no types at its stars. -/
def TypeRef.starlessType : Option TypeRef → Option TypeRef
  | none => none
  | some t => some t.starless

end

mutual

/-- The names that are spelled in a type, in the order of the text. -/
def TypeRef.names : TypeRef → List String
  | ⟨none, _, _⟩ => []
  | ⟨some name, _, arguments⟩ => name :: TypeRef.argumentsNames arguments

/-- The names that are spelled in generic arguments. -/
def TypeRef.argumentsNames : List (Projection TypeRef) → List String
  | [] => []
  | a :: rest => TypeRef.argumentNames a ++ TypeRef.argumentsNames rest

/-- The names that are spelled in one generic argument. -/
def TypeRef.argumentNames : Projection TypeRef → List String
  | ⟨.star, _⟩ => []
  | ⟨.invariant, type⟩ => TypeRef.argumentTypeNames type
  | ⟨.covariant, type⟩ => TypeRef.argumentTypeNames type
  | ⟨.contravariant, type⟩ => TypeRef.argumentTypeNames type

/-- The names that are spelled in the type of a generic argument. -/
def TypeRef.argumentTypeNames : Option TypeRef → List String
  | none => []
  | some t => t.names

end

mutual

/-- The type has all its parts, and every name in it can be told from the signs around it. -/
def TypeRef.IsLegible : TypeRef → Prop
  | ⟨none, _, _⟩ => False
  | ⟨some name, _, arguments⟩ => IsTypeName name ∧ TypeRef.AreLegible arguments

/-- All generic arguments are legible. -/
def TypeRef.AreLegible : List (Projection TypeRef) → Prop
  | [] => True
  | a :: rest => TypeRef.IsLegibleArgument a ∧ TypeRef.AreLegible rest

/-- The generic argument is a star, or its type is legible. -/
def TypeRef.IsLegibleArgument : Projection TypeRef → Prop
  | ⟨.star, _⟩ => True
  | ⟨.invariant, type⟩ => TypeRef.IsLegibleType type
  | ⟨.covariant, type⟩ => TypeRef.IsLegibleType type
  | ⟨.contravariant, type⟩ => TypeRef.IsLegibleType type

/-- The type is there and is legible. -/
def TypeRef.IsLegibleType : Option TypeRef → Prop
  | none => False
  | some t => t.IsLegible

end

mutual

/-- A type without gaps is legible if its names are. -/
theorem TypeRef.isLegible_of_names {position : GapPosition} :
    (t : TypeRef) → t.gaps position = [] → (∀ name ∈ t.names, IsTypeName name) → t.IsLegible
  | ⟨none, _, _⟩, hgaps, _ => absurd hgaps (List.cons_ne_nil _ _)
  | ⟨some name, _, arguments⟩, hgaps, hnames =>
      ⟨hnames name List.mem_cons_self, TypeRef.areLegible_of_names arguments hgaps
        fun n hn => hnames n (List.mem_cons_of_mem name hn)⟩

/-- Generic arguments without gaps are legible if their names are. -/
theorem TypeRef.areLegible_of_names :
    (arguments : List (Projection TypeRef)) → TypeRef.argumentsGaps arguments = [] →
    (∀ name ∈ TypeRef.argumentsNames arguments, IsTypeName name) → TypeRef.AreLegible arguments
  | [], _, _ => trivial
  | a :: rest, hgaps, hnames => by
      obtain ⟨ha, hrest⟩ := List.append_eq_nil_iff.mp hgaps
      refine ⟨TypeRef.isLegibleArgument_of_names a ha ?_,
        TypeRef.areLegible_of_names rest hrest ?_⟩
      · exact fun name hname => hnames name (List.mem_append_left _ hname)
      · exact fun name hname => hnames name (List.mem_append_right _ hname)

/-- One generic argument without gaps is legible if its names are. -/
theorem TypeRef.isLegibleArgument_of_names :
    (a : Projection TypeRef) → TypeRef.argumentGaps a = [] →
    (∀ name ∈ TypeRef.argumentNames a, IsTypeName name) → TypeRef.IsLegibleArgument a
  | ⟨.star, _⟩, _, _ => trivial
  | ⟨.invariant, type⟩, hgaps, hnames => TypeRef.isLegibleType_of_names type hgaps hnames
  | ⟨.covariant, type⟩, hgaps, hnames => TypeRef.isLegibleType_of_names type hgaps hnames
  | ⟨.contravariant, type⟩, hgaps, hnames => TypeRef.isLegibleType_of_names type hgaps hnames

/-- The type of a generic argument is legible if it is there and its names are. -/
theorem TypeRef.isLegibleType_of_names :
    (type : Option TypeRef) → TypeRef.argumentTypeGaps type = [] →
    (∀ name ∈ TypeRef.argumentTypeNames type, IsTypeName name) → TypeRef.IsLegibleType type
  | none, hgaps, _ => absurd hgaps (List.cons_ne_nil _ _)
  | some t, hgaps, hnames => TypeRef.isLegible_of_names t hgaps hnames

end

/-- A legible type has a name. -/
theorem TypeRef.IsLegible.isResolved {t : TypeRef} (h : t.IsLegible) : t.isResolved = true := by
  obtain ⟨name, nullable, arguments⟩ := t
  cases name with
  | none => exact h.elim
  | some name => rfl

/-! ## What stands behind the parts of a type -/

/-- A text that may stand behind a type begins with a comma or a closing bracket. -/
def FollowsType (r : List Char) : Prop :=
  ∃ x rest, r = x :: rest ∧ x ∈ [',', '>']

/-- The text behind the name or the closing bracket of a type, with the mark for nullability. -/
def TypeRef.marked (nullable : Bool) (r : List Char) : List Char :=
  if nullable then '?' :: r else r

/-- The text behind a generic argument: the other arguments, each behind a comma, the closing
bracket and what follows it. -/
def TypeRef.afterArgument : List (Projection TypeRef) → List Char → List Char
  | [], r => '>' :: r
  | b :: rest, r => ',' :: ' ' :: ((argumentSpelling b).toList ++ afterArgument rest r)

/-- The text behind the name of a type. -/
def TypeRef.afterName (nullable : Bool) : List (Projection TypeRef) → List Char → List Char
  | [], r => marked nullable r
  | a :: rest, r =>
    '<' :: ((argumentSpelling a).toList ++ afterArgument rest (marked nullable r))

namespace TypeRef

/-- The arguments between their brackets, seen from the first one. -/
theorem intercalate_append (a : Projection TypeRef) (rest : List (Projection TypeRef))
    (r : List Char) :
    (", ".intercalate (argumentSpellings (a :: rest))).toList ++ '>' :: r
      = (argumentSpelling a).toList ++ afterArgument rest r := by
  induction rest generalizing a with
  | nil => simp [argumentSpellings, afterArgument]
  | cons b rest ih =>
      rw [argumentSpellings, argumentSpellings, String.intercalate_cons_cons, ← argumentSpellings,
        String.toList_append, String.toList_append, List.append_assoc, List.append_assoc, ih b]
      rfl

/-- A spelling begins with the name. -/
theorem spelling_append (name : String) (nullable : Bool) (arguments : List (Projection TypeRef))
    (r : List Char) :
    (⟨some name, nullable, arguments⟩ : TypeRef).spelling.toList ++ r
      = name.toList ++ afterName nullable arguments r := by
  have hmark : (if nullable then "?" else "").toList ++ r = marked nullable r := by
    cases nullable <;> rfl
  cases arguments with
  | nil =>
      rw [spelling, afterName, ← hmark]
      simp [List.append_assoc]
  | cons a rest =>
      rw [spelling, afterName, ← hmark, ← intercalate_append]
      simp [List.append_assoc]

/-- Behind a name stands one of four signs. -/
theorem afterName_eq_cons (nullable : Bool) (arguments : List (Projection TypeRef)) {r : List Char}
    (hr : FollowsType r) :
    ∃ x rest, afterName nullable arguments r = x :: rest ∧ x ∈ ['<', '?', ',', '>'] := by
  obtain ⟨x, rest, rfl, hx⟩ := hr
  cases arguments with
  | nil =>
      cases nullable with
      | false => exact ⟨x, rest, rfl, List.mem_cons_of_mem _ (List.mem_cons_of_mem _ hx)⟩
      | true => exact ⟨'?', x :: rest, rfl, by decide⟩
  | cons a others => exact ⟨'<', _, rfl, by decide⟩

/-- Behind an argument stands a comma or the closing bracket. -/
theorem followsType_afterArgument (rest : List (Projection TypeRef)) (r : List Char) :
    FollowsType (afterArgument rest r) := by
  cases rest with
  | nil => exact ⟨'>', r, rfl, by decide⟩
  | cons b others => exact ⟨',', _, rfl, by decide⟩

/-- The mark for nullability can be told from what may follow a type. -/
theorem eq_of_marked_eq {nullable nullable' : Bool} {r s : List Char} (hr : FollowsType r)
    (hs : FollowsType s) (h : marked nullable r = marked nullable' s) :
    nullable = nullable' ∧ r = s := by
  obtain ⟨x, rest, rfl, hx⟩ := hr
  obtain ⟨y, rest', rfl, hy⟩ := hs
  cases nullable with
  | false =>
      cases nullable' with
      | false => exact ⟨rfl, h⟩
      | true =>
          injection h with hxy _
          rw [hxy] at hx
          exact absurd hx (by decide)
  | true =>
      cases nullable' with
      | false =>
          injection h with hxy _
          rw [← hxy] at hy
          exact absurd hy (by decide)
      | true =>
          injection h with _ hrest
          exact ⟨rfl, hrest⟩

/-- The text behind a type without arguments does not open a bracket. -/
theorem marked_ne_bracket (nullable : Bool) {r : List Char} (hr : FollowsType r)
    (rest : List Char) : marked nullable r ≠ '<' :: rest := by
  obtain ⟨x, others, rfl, hx⟩ := hr
  intro h
  cases nullable with
  | false =>
      injection h with hsign _
      rw [hsign] at hx
      exact absurd hx (by decide)
  | true =>
      injection h with hsign _
      exact absurd hsign (by decide)

/-! ## Variances -/

/-- None of the signs that stand behind names belongs to a word, and none is a star or a blank. -/
theorem not_isWordChar_of_mem {x : Char} (h : x ∈ ['<', '?', ',', '>']) :
    ¬ IsWordChar x ∧ x ≠ '*' ∧ x ≠ ' ' := by
  simp only [List.mem_cons, List.not_mem_nil, or_false] at h
  rcases h with rfl | rfl | rfl | rfl <;> decide

/-- A type begins with a word, which is empty if it has no name, and one of four signs. -/
theorem spelling_append_eq (t : TypeRef) (ht : ∀ name ∈ t.names, IsWord name) {r : List Char}
    (hr : FollowsType r) :
    ∃ word x rest, t.spelling.toList ++ r = word ++ x :: rest ∧
      (∀ y ∈ word, IsWordChar y) ∧ x ∈ ['<', '?', ',', '>'] := by
  match t, ht with
  | ⟨none, _, _⟩, _ =>
      obtain ⟨x, rest, rfl, hx⟩ := hr
      refine ⟨[], x, rest, rfl, by simp, ?_⟩
      exact List.mem_cons_of_mem _ (List.mem_cons_of_mem _ hx)
  | ⟨some name, nullable, arguments⟩, ht =>
      obtain ⟨x, rest, hrest, hx⟩ := afterName_eq_cons nullable arguments hr
      refine ⟨name.toList, x, rest, ?_, (ht name List.mem_cons_self).2, hx⟩
      rw [← hrest]
      exact spelling_append name nullable arguments r

/-- An argument without a type is spelled like one whose type was not resolved. -/
theorem argumentTypeSpelling_eq (type : Option TypeRef) :
    argumentTypeSpelling type = (type.getD .unresolved).spelling := by
  cases type with
  | none => rfl
  | some t => rfl

theorem argumentTypeNames_eq (type : Option TypeRef) :
    argumentTypeNames type = (type.getD .unresolved).names := by
  cases type with
  | none => rfl
  | some t => rfl

/-- An argument begins with a word and a sign that together show the variance. -/
theorem argumentSpelling_append (a : Projection TypeRef)
    (ha : ∀ name ∈ argumentNames a, IsWord name) {r : List Char} (hr : FollowsType r) :
    ∃ word x rest, (argumentSpelling a).toList ++ r = word ++ x :: rest ∧
      (∀ y ∈ word, IsWordChar y) ∧ ¬ IsWordChar x ∧
      match a.variance with
      | .star => x = '*'
      | .invariant => x ≠ '*' ∧ x ≠ ' '
      | .covariant => x = ' ' ∧ word = ['o', 'u', 't']
      | .contravariant => x = ' ' ∧ word = ['i', 'n'] := by
  obtain ⟨variance, type⟩ := a
  cases variance with
  | star =>
      refine ⟨[], '*', r, ?_, by simp, by decide, rfl⟩
      simp [argumentSpelling]
  | covariant =>
      refine ⟨['o', 'u', 't'], ' ', (argumentTypeSpelling type).toList ++ r, ?_, ?_, by decide,
        rfl, rfl⟩
      · simp [argumentSpelling]
      · simp [IsWordChar]
  | contravariant =>
      refine ⟨['i', 'n'], ' ', (argumentTypeSpelling type).toList ++ r, ?_, ?_, by decide,
        rfl, rfl⟩
      · simp [argumentSpelling]
      · simp [IsWordChar]
  | invariant =>
      -- a gap leaves no word, and the sign is the one behind the argument
      rw [argumentNames, argumentTypeNames_eq] at ha
      obtain ⟨word, x, rest, heq, hword, hx⟩ := spelling_append_eq _ ha hr
      refine ⟨word, x, rest, ?_, hword, not_isWordChar_of_mem hx⟩
      rw [argumentSpelling, argumentTypeSpelling_eq, heq]

/-- Arguments with the same text have the same variance. -/
theorem variance_eq_of_append_eq {a b : Projection TypeRef}
    (ha : ∀ name ∈ argumentNames a, IsWord name) (hb : ∀ name ∈ argumentNames b, IsWord name)
    {r s : List Char} (hr : FollowsType r) (hs : FollowsType s)
    (h : (argumentSpelling a).toList ++ r = (argumentSpelling b).toList ++ s) :
    a.variance = b.variance := by
  obtain ⟨v, x, rest, hv, hvchars, hx, hxsign⟩ := argumentSpelling_append a ha hr
  obtain ⟨w, y, rest', hw, hwchars, hy, hysign⟩ := argumentSpelling_append b hb hs
  rw [hv, hw] at h
  obtain ⟨rfl, rfl, _⟩ := eq_of_append_cons_eq hvchars hwchars hx hy h
  cases hva : a.variance <;> cases hvb : b.variance <;> simp_all

/-! ## Types -/

/-- What follows a type does not begin with a name. -/
theorem ne_name_append {name : String} (hname : IsWord name) {r : List Char} (hr : FollowsType r)
    (rest : List Char) : r ≠ name.toList ++ rest := by
  obtain ⟨x, others, rfl, hx⟩ := hr
  intro h
  cases hchars : name.toList with
  | nil => exact hname.1 (String.toList_eq_nil_iff.mp hchars)
  | cons y chars =>
      rw [hchars] at h
      injection h with hxy _
      have hy : IsWordChar y := hname.2 y (by rw [hchars]; exact List.mem_cons_self)
      rw [← hxy] at hy
      exact (not_isWordChar_of_mem (List.mem_cons_of_mem _ (List.mem_cons_of_mem _ hx))).1 hy

mutual

/-- **The normal form of a type can be read back from its text**, together with where it ends. -/
theorem normal_eq_of_spelling_append_eq :
    (t u : TypeRef) → (∀ name ∈ t.names, IsWord name) → (∀ name ∈ u.names, IsWord name) →
    (r s : List Char) → FollowsType r → FollowsType s →
    t.spelling.toList ++ r = u.spelling.toList ++ s → t.normal = u.normal ∧ r = s
  | ⟨none, _, _⟩, ⟨none, _, _⟩, _, _, r, s, _, _, h => ⟨rfl, h⟩
  | ⟨none, _, _⟩, ⟨some name, nullable, arguments⟩, _, hu, r, s, hr, _, h => by
      rw [spelling_append] at h
      exact absurd h (ne_name_append (hu name List.mem_cons_self) hr _)
  | ⟨some name, nullable, arguments⟩, ⟨none, _, _⟩, ht, _, r, s, _, hs, h => by
      rw [spelling_append] at h
      exact absurd h.symm (ne_name_append (ht name List.mem_cons_self) hs _)
  | ⟨some name, nullable, arguments⟩, ⟨some name', nullable', arguments'⟩, ht, hu, r, s, hr, hs,
      h => by
      obtain ⟨hname, harguments⟩ := List.forall_mem_cons.mp ht
      obtain ⟨hname', harguments'⟩ := List.forall_mem_cons.mp hu
      rw [spelling_append, spelling_append] at h
      obtain ⟨x, rest, hrest, hx⟩ := afterName_eq_cons nullable arguments hr
      obtain ⟨y, rest', hrest', hy⟩ := afterName_eq_cons nullable' arguments' hs
      rw [hrest, hrest'] at h
      obtain ⟨hnames, hxy, htail⟩ := eq_of_append_cons_eq hname.2 hname'.2
        (not_isWordChar_of_mem hx).1 (not_isWordChar_of_mem hy).1 h
      -- the names end at the first sign, and what stands behind them is the same
      have hafter : afterName nullable arguments r = afterName nullable' arguments' s := by
        rw [hrest, hrest', hxy, htail]
      obtain ⟨hnullable, hnormal, hrs⟩ := normalArguments_eq_of_afterName_eq nullable nullable'
        arguments arguments' harguments harguments' r s hr hs hafter
      refine ⟨?_, hrs⟩
      rw [normal, normal, String.toList_inj.mp hnames, hnullable, hnormal]
termination_by structural t => t

/-- What stands behind the name of a type tells its arguments and whether it is nullable. -/
theorem normalArguments_eq_of_afterName_eq (nullable nullable' : Bool) :
    (as bs : List (Projection TypeRef)) → (∀ name ∈ argumentsNames as, IsWord name) →
    (∀ name ∈ argumentsNames bs, IsWord name) →
    (r s : List Char) → FollowsType r → FollowsType s →
    afterName nullable as r = afterName nullable' bs s →
    nullable = nullable' ∧ normalArguments as = normalArguments bs ∧ r = s
  | [], [], _, _, r, s, hr, hs, h => by
      obtain ⟨hnullable, hrs⟩ := eq_of_marked_eq hr hs h
      exact ⟨hnullable, rfl, hrs⟩
  | [], _ :: _, _, _, _, _, hr, _, h => absurd h (marked_ne_bracket nullable hr _)
  | _ :: _, [], _, _, _, _, _, hs, h => absurd h.symm (marked_ne_bracket nullable' hs _)
  | a :: as, b :: bs, ha, hb, r, s, hr, hs, h => by
      obtain ⟨ha, has⟩ := List.forall_mem_append.mp ha
      obtain ⟨hb, hbs⟩ := List.forall_mem_append.mp hb
      injection h with _ h
      obtain ⟨hab, hafter⟩ := normalArgument_eq_of_argumentSpelling_append_eq a b ha hb _ _
        (followsType_afterArgument as _) (followsType_afterArgument bs _) h
      obtain ⟨hrest, hmarked⟩ :=
        normalArguments_eq_of_afterArgument_eq as bs has hbs _ _ hafter
      obtain ⟨hnullable, hrs⟩ := eq_of_marked_eq hr hs hmarked
      refine ⟨hnullable, ?_, hrs⟩
      rw [normalArguments, normalArguments, hab, hrest]
termination_by structural as => as

/-- What stands behind an argument tells the arguments that follow it. -/
theorem normalArguments_eq_of_afterArgument_eq :
    (as bs : List (Projection TypeRef)) → (∀ name ∈ argumentsNames as, IsWord name) →
    (∀ name ∈ argumentsNames bs, IsWord name) → (r s : List Char) →
    afterArgument as r = afterArgument bs s →
    normalArguments as = normalArguments bs ∧ r = s
  | [], [], _, _, r, s, h => by
      injection h with _ hrs
      exact ⟨rfl, hrs⟩
  | [], b :: bs, _, _, r, s, h => by
      injection h with hsign _
      exact absurd hsign (by decide)
  | a :: as, [], _, _, r, s, h => by
      injection h with hsign _
      exact absurd hsign (by decide)
  | a :: as, b :: bs, ha, hb, r, s, h => by
      obtain ⟨ha, has⟩ := List.forall_mem_append.mp ha
      obtain ⟨hb, hbs⟩ := List.forall_mem_append.mp hb
      injection h with _ h
      injection h with _ h
      obtain ⟨hab, hafter⟩ := normalArgument_eq_of_argumentSpelling_append_eq a b ha hb _ _
        (followsType_afterArgument as r) (followsType_afterArgument bs s) h
      obtain ⟨hrest, hrs⟩ := normalArguments_eq_of_afterArgument_eq as bs has hbs r s hafter
      refine ⟨?_, hrs⟩
      rw [normalArguments, normalArguments, hab, hrest]
termination_by structural as => as

/-- A generic argument can be read back from its text. -/
theorem normalArgument_eq_of_argumentSpelling_append_eq :
    (a b : Projection TypeRef) → (∀ name ∈ argumentNames a, IsWord name) →
    (∀ name ∈ argumentNames b, IsWord name) →
    (r s : List Char) → FollowsType r → FollowsType s →
    (argumentSpelling a).toList ++ r = (argumentSpelling b).toList ++ s →
    normalArgument a = normalArgument b ∧ r = s
  | ⟨variance, type⟩, ⟨variance', type'⟩, ha, hb, r, s, hr, hs, h => by
      -- a type called `out` or `in` is not taken for a keyword, since no blank follows it
      have hvariance : variance = variance' := variance_eq_of_append_eq ha hb hr hs h
      subst hvariance
      cases variance with
      | star =>
          simp only [argumentSpelling] at h
          exact ⟨rfl, List.append_cancel_left h⟩
      | invariant =>
          obtain ⟨htype, hrs⟩ :=
            normalType_eq_of_argumentTypeSpelling_append_eq type type' ha hb r s hr hs h
          exact ⟨congrArg TypeArgument.invariant htype, hrs⟩
      | covariant =>
          simp only [argumentSpelling, String.toList_append, List.append_assoc] at h
          obtain ⟨htype, hrs⟩ := normalType_eq_of_argumentTypeSpelling_append_eq type type' ha hb
            r s hr hs (List.append_cancel_left h)
          exact ⟨congrArg TypeArgument.covariant htype, hrs⟩
      | contravariant =>
          simp only [argumentSpelling, String.toList_append, List.append_assoc] at h
          obtain ⟨htype, hrs⟩ := normalType_eq_of_argumentTypeSpelling_append_eq type type' ha hb
            r s hr hs (List.append_cancel_left h)
          exact ⟨congrArg TypeArgument.contravariant htype, hrs⟩
termination_by structural a => a

/-- The type of a generic argument can be read back from its text. If it is missing, nothing is
spelled, which tells it from every type with a name. -/
theorem normalType_eq_of_argumentTypeSpelling_append_eq :
    (a b : Option TypeRef) → (∀ name ∈ argumentTypeNames a, IsWord name) →
    (∀ name ∈ argumentTypeNames b, IsWord name) →
    (r s : List Char) → FollowsType r → FollowsType s →
    (argumentTypeSpelling a).toList ++ r = (argumentTypeSpelling b).toList ++ s →
    normalType a = normalType b ∧ r = s
  | none, none, _, _, _, _, _, _, h => ⟨rfl, h⟩
  | none, some ⟨none, _, _⟩, _, _, _, _, _, _, h => ⟨rfl, h⟩
  | none, some ⟨some name, nullable, arguments⟩, _, hb, r, s, hr, _, h => by
      rw [argumentTypeSpelling, argumentTypeSpelling, spelling_append] at h
      exact absurd h (ne_name_append (hb name List.mem_cons_self) hr _)
  | some ⟨none, _, _⟩, none, _, _, _, _, _, _, h => ⟨rfl, h⟩
  | some ⟨some name, nullable, arguments⟩, none, ha, _, r, s, _, hs, h => by
      rw [argumentTypeSpelling, argumentTypeSpelling, spelling_append] at h
      exact absurd h.symm (ne_name_append (ha name List.mem_cons_self) hs _)
  | some t, some u, ht, hu, r, s, hr, hs, h =>
      normal_eq_of_spelling_append_eq t u ht hu r s hr hs h
termination_by structural a => a

end

/-! ## Legible types -/

mutual

/-- Nothing but the types at stars is missing from the normal form of a legible type. -/
theorem IsLegible.normal_eq : (t : TypeRef) → t.IsLegible → t.normal = t.starless
  | ⟨none, _, _⟩, h => h.elim
  | ⟨some _, _, arguments⟩, h => by
      rw [normal, starless, AreLegible.normalArguments_eq arguments h.2]

theorem AreLegible.normalArguments_eq :
    (arguments : List (Projection TypeRef)) → AreLegible arguments →
    normalArguments arguments = starlessArguments arguments
  | [], _ => rfl
  | a :: rest, h => by
      rw [normalArguments, starlessArguments, IsLegibleArgument.normalArgument_eq a h.1,
        AreLegible.normalArguments_eq rest h.2]

theorem IsLegibleArgument.normalArgument_eq :
    (a : Projection TypeRef) → IsLegibleArgument a → normalArgument a = starlessArgument a
  | ⟨.star, _⟩, _ => rfl
  | ⟨.invariant, type⟩, h =>
      congrArg (Projection.mk .invariant) (IsLegibleType.normalType_eq type h)
  | ⟨.covariant, type⟩, h =>
      congrArg (Projection.mk .covariant) (IsLegibleType.normalType_eq type h)
  | ⟨.contravariant, type⟩, h =>
      congrArg (Projection.mk .contravariant) (IsLegibleType.normalType_eq type h)

theorem IsLegibleType.normalType_eq :
    (type : Option TypeRef) → IsLegibleType type → some (normalType type) = starlessType type
  | none, h => h.elim
  | some t, h => congrArg some (IsLegible.normal_eq t h)

end

mutual

/-- The names in a legible type are words. -/
theorem IsLegible.isWord : (t : TypeRef) → t.IsLegible → ∀ name ∈ t.names, IsWord name
  | ⟨none, _, _⟩, h => h.elim
  | ⟨some _, _, arguments⟩, h =>
      List.forall_mem_cons.mpr ⟨h.1.isWord, AreLegible.isWord arguments h.2⟩

theorem AreLegible.isWord :
    (arguments : List (Projection TypeRef)) → AreLegible arguments →
    ∀ name ∈ argumentsNames arguments, IsWord name
  | [], _ => by simp [argumentsNames]
  | a :: rest, h =>
      List.forall_mem_append.mpr ⟨IsLegibleArgument.isWord a h.1, AreLegible.isWord rest h.2⟩

theorem IsLegibleArgument.isWord :
    (a : Projection TypeRef) → IsLegibleArgument a → ∀ name ∈ argumentNames a, IsWord name
  | ⟨.star, _⟩, _ => by simp [argumentNames]
  | ⟨.invariant, type⟩, h => IsLegibleType.isWord type h
  | ⟨.covariant, type⟩, h => IsLegibleType.isWord type h
  | ⟨.contravariant, type⟩, h => IsLegibleType.isWord type h

theorem IsLegibleType.isWord :
    (type : Option TypeRef) → IsLegibleType type → ∀ name ∈ argumentTypeNames type, IsWord name
  | none, h => h.elim
  | some t, h => IsLegible.isWord t h

end

/-- **A legible type can be read back from its text**, but for what stars carry, together with where
it ends. -/
theorem eq_of_spelling_append_eq (t u : TypeRef) (ht : t.IsLegible) (hu : u.IsLegible)
    (r s : List Char) (hr : FollowsType r) (hs : FollowsType s)
    (h : t.spelling.toList ++ r = u.spelling.toList ++ s) : t.starless = u.starless ∧ r = s := by
  obtain ⟨hnormal, hrs⟩ := normal_eq_of_spelling_append_eq t u (IsLegible.isWord t ht)
    (IsLegible.isWord u hu) r s hr hs h
  rw [IsLegible.normal_eq t ht, IsLegible.normal_eq u hu] at hnormal
  exact ⟨hnormal, hrs⟩

/-! ## What the text of a type tells -/

/-- **Types are written alike exactly if they have the same normal form.** Types of the same normal
form are written alike in both ways, with the same faults. Types whose names are words and that
leave the same text around their gaps have the same normal form. -/
theorem writing_decides_normal (t u : TypeRef) :
    (t.normal = u.normal → ∀ (d : Draft) (symbol : String),
      d.writeTypeAround t symbol = d.writeTypeAround u symbol ∧
      d.writeType t symbol = d.writeType u symbol) ∧
    ((∀ name ∈ t.names ++ u.names, IsWord name) → ∀ (d : Draft) (symbol : String),
      (d.writeTypeAround t symbol).1.text = (d.writeTypeAround u symbol).1.text →
      t.normal = u.normal) := by
  refine ⟨?_, ?_⟩
  · intro h d symbol
    exact ⟨Draft.writeTypeAround_congr h d symbol, Draft.writeType_congr h d symbol⟩
  · intro hnames d symbol h
    obtain ⟨ht, hu⟩ := List.forall_mem_append.mp hnames
    rw [Draft.writeTypeAround_eq, Draft.writeTypeAround_eq] at h
    have hspelling : t.spelling = u.spelling := String.append_right_inj d.text |>.mp h
    -- a comma behind both spellings marks where they end
    have hfollows : FollowsType [','] := ⟨',', [], rfl, by decide⟩
    exact (normal_eq_of_spelling_append_eq t u ht hu [','] [','] hfollows hfollows
      (by rw [hspelling])).1

/-- A pair whose first argument has no type, and neither has the last one inside the second. -/
def gappyPair : TypeRef :=
  let map : TypeRef := ((named "Map").withArgument .star).withArgument { variance := .covariant }
  ((named "Pair").withArgument {}).withArgument (.contravariant map)

/-- The pair with types in these places that were not resolved, and with a type at the star. -/
def unresolvedPair : TypeRef :=
  let hidden : TypeRef := (unresolved.withArgument (.invariant (named "Int"))).asNullable
  let map : TypeRef := ((named "Map").withArgument { variance := .star, type := some hidden })
    |>.withArgument (.covariant unresolved)
  ((named "Pair").withArgument (.invariant hidden)).withArgument (.contravariant map)

/-- Both pairs leave the same text around their gaps, so they have the same normal form, and so they
are written alike up to the first gap as well. -/
theorem gappyPair_normal_eq :
    (({} : Draft).writeTypeAround gappyPair "").1.text = "Pair<, in Map<*, out >>" ∧
    (({} : Draft).writeTypeAround unresolvedPair "").1.text = "Pair<, in Map<*, out >>" ∧
    gappyPair.normal = unresolvedPair.normal ∧
    ∀ (d : Draft) (symbol : String),
      d.writeType gappyPair symbol = d.writeType unresolvedPair symbol := by
  have hgappy : (({} : Draft).writeTypeAround gappyPair "").1.text = "Pair<, in Map<*, out >>" := by
    decide
  have hunresolved :
      (({} : Draft).writeTypeAround unresolvedPair "").1.text = "Pair<, in Map<*, out >>" := by
    decide
  have hnormal : gappyPair.normal = unresolvedPair.normal :=
    (writing_decides_normal gappyPair unresolvedPair).2 (by decide) {} ""
      (hgappy.trans hunresolved.symm)
  exact ⟨hgappy, hunresolved, hnormal, fun d symbol =>
    ((writing_decides_normal gappyPair unresolvedPair).1 hnormal d symbol).2⟩

end TypeRef

end Stubsmith
