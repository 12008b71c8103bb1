import Stubsmith.Proofs.Manifest.FaultSpan

/-!
# Whether the mark is in the entry at fault

The mark of a fault is put where the value at fault is first found between quotes, and the search
does not know the entry that the value was read from. So the mark is in this entry exactly if the
value stands nowhere between quotes before it (`Manifest.mark_in_entry_iff_first`). A comment, a
declaration or another entry with the same value takes the mark (`commentedSource_marked_outside`).
-/

namespace Stubsmith

open Kotlin Text

/-! ## Places of a value between quotes -/

theorem byteLength_pos {c : Char} {rest : List Char} : 0 < byteLength (c :: rest) := by
  rw [byteLength]
  exact Nat.add_pos_left c.utf8Size_pos _

/-- Of two beginnings of a text the one with fewer bytes is a beginning of the other. -/
theorem exists_append_of_isPrefix {a b text : List Char} (ha : a <+: text) (hb : b <+: text)
    (hle : byteLength a ≤ byteLength b) : ∃ more, b = a ++ more := by
  rcases List.prefix_or_prefix_of_prefix ha hb with ⟨more, hmore⟩ | ⟨more, rfl⟩
  · exact ⟨more, hmore.symm⟩
  · cases more with
    | nil => exact ⟨[], by simp⟩
    | cons c rest =>
        rw [byteLength_append] at hle
        have hpos : 0 < byteLength (c :: rest) := byteLength_pos
        omega

/-- Beginnings of a text with as many bytes are the same. -/
theorem eq_of_occursBehind {p q text a b : String} (ha : OccursBehind p text a)
    (hb : OccursBehind q text b) (hsize : a.utf8ByteSize = b.utf8ByteSize) : a = b := by
  rw [← byteLength_toList, ← byteLength_toList] at hsize
  have hat := (List.prefix_append _ _).trans (occursBehind_iff_toList.mp ha)
  have hbt := (List.prefix_append _ _).trans (occursBehind_iff_toList.mp hb)
  obtain ⟨more, hmore⟩ := exists_append_of_isPrefix hat hbt (Nat.le_of_eq hsize)
  cases more with
  | nil => exact String.toList_inj.mp (by rw [hmore, List.append_nil])
  | cons c rest =>
      have hpos : 0 < byteLength (c :: rest) := byteLength_pos
      rw [hmore, byteLength_append] at hsize
      omega

/-- Behind its opening quote a value ends before it stands between quotes again, unless it has both
quotes in it. -/
theorem exists_append_of_quoted {q r : Char} {v m s t : List Char} (hplain : q ∉ v ∨ r ∉ v)
    (h : v ++ q :: s = m ++ r :: (v ++ r :: t)) : ∃ more, m = v ++ more := by
  rcases List.append_eq_append_iff.mp h with ⟨more, hmore, -⟩ | ⟨inner, hv, hrest⟩
  · exact ⟨more, hmore⟩
  · cases inner with
    | nil => exact ⟨[], by simpa using hv.symm⟩
    | cons x inner =>
        rw [List.cons_append] at hrest
        injection hrest with hx hrest
        subst hx
        rcases hplain with hq | hr
        · -- the value would begin again inside itself, and that place ends with `q`
          have hlength : inner.length < v.length := by
            rw [hv, List.length_append, List.length_cons]
            omega
          have hat := congrArg (·[inner.length]?) hrest
          simp only [List.getElem?_append_left hlength, List.getElem?_append_right (Nat.le_refl _),
            Nat.sub_self, List.getElem?_cons_zero] at hat
          exact absurd (List.mem_of_getElem? hat) hq
        · exact absurd (by simp [hv]) hr

/-- Two places of a value between quotes do not overlap, if one of the quotes is not in it. -/
theorem size_le_of_quoted {q r : Char} {value text a b : String}
    (hplain : q ∉ value.toList ∨ r ∉ value.toList)
    (ha : OccursBehind (quoted (String.singleton q) value) text a)
    (hb : OccursBehind (quoted (String.singleton r) value) text b)
    (hlt : a.utf8ByteSize < b.utf8ByteSize) :
    a.utf8ByteSize + 1 + value.utf8ByteSize ≤ b.utf8ByteSize := by
  rw [occursBehind_iff_toList] at ha hb
  simp only [← byteLength_toList] at hlt ⊢
  obtain ⟨more, hmore⟩ := exists_append_of_isPrefix ((List.prefix_append _ _).trans ha)
    ((List.prefix_append _ _).trans hb) (Nat.le_of_lt hlt)
  obtain ⟨s, hs⟩ := ha
  obtain ⟨t, ht⟩ := hb
  rw [← hs, hmore] at ht
  simp only [quoted, String.toList_append, String.toList_singleton, List.append_assoc,
    List.append_cancel_left_eq, List.singleton_append] at ht
  cases more with
  | nil =>
      rw [hmore, List.append_nil] at hlt
      exact absurd hlt (Nat.lt_irrefl _)
  | cons c m =>
      injection ht with _ ht
      obtain ⟨rest, rfl⟩ := exists_append_of_quoted hplain ht.symm
      have hc := c.utf8Size_pos
      rw [hmore, byteLength_append, byteLength, byteLength_append]
      omega

/-! ## The place that is found -/

namespace OpensBehind

variable {value text before : String}

/-- The place that is found is one between quotes. -/
theorem occursBehind (h : OpensBehind value text before) :
    ∃ quote, OccursBehind (quoted (String.singleton quote) value) text before := by
  cases h with
  | double h => exact ⟨'"', h.occurs⟩
  | single _ h => exact ⟨'\'', h.occurs⟩

/-- There is one place that is found. -/
theorem eq {other : String} (h : OpensBehind value text before)
    (h' : OpensBehind value text other) : before = other := by
  cases h with
  | double h =>
      cases h' with
      | double h' =>
          exact eq_of_occursBehind h.occurs h'.occurs
            (Nat.le_antisymm (h.size_le _ h'.occurs) (h'.size_le _ h.occurs))
      | single hdouble _ => exact absurd ⟨_, h.occurs⟩ hdouble
  | single hdouble h =>
      cases h' with
      | double h' => exact absurd ⟨_, h'.occurs⟩ hdouble
      | single _ h' =>
          exact eq_of_occursBehind h.occurs h'.occurs
            (Nat.le_antisymm (h.size_le _ h'.occurs) (h'.size_le _ h.occurs))

end OpensBehind

/-- The span lies inside another one. -/
structure Span.Within (span outer : Span) : Prop where
  offset_le : outer.offset ≤ span.offset
  stop_le : span.offset + span.length ≤ outer.offset + outer.length

instance (span outer : Span) : Decidable (span.Within outer) :=
  decidable_of_iff (outer.offset ≤ span.offset ∧
      span.offset + span.length ≤ outer.offset + outer.length)
    ⟨fun h => ⟨h.1, h.2⟩, fun h => ⟨h.1, h.2⟩⟩

/-- The place of a value in the text, of which `before` is what stands before its opening quote. -/
def Span.ofValue (before value : String) : Span :=
  ⟨before.utf8ByteSize + 1, value.utf8ByteSize⟩

/-- The mark of a piece of a value is inside a place where the value stands between quotes exactly
if this is the place that is found. -/
theorem MarksPiece.within_iff {text value front piece before : String} {span : Option Span}
    {quote : Char} {place : Span} (h : MarksPiece text value front piece span)
    (hplace : span = some place)
    (hbefore : OccursBehind (quoted (String.singleton quote) value) text before)
    (hplain : quote ∉ value.toList) :
    place.Within (.ofValue before value) ↔ OpensBehind value text before := by
  obtain ⟨found, hfound, hoffset, hstop⟩ := h.inside place hplace
  obtain ⟨other, hother⟩ := hfound.occursBehind
  constructor
  · rintro ⟨hstart, hend⟩
    simp only [Span.ofValue] at hstart hend
    rcases Nat.lt_trichotomy found.utf8ByteSize before.utf8ByteSize with hlt | hsize | hgt
    · have hapart := size_le_of_quoted (Or.inr hplain) hother hbefore hlt
      omega
    · rwa [← eq_of_occursBehind hother hbefore hsize]
    · have hapart := size_le_of_quoted (Or.inl hplain) hbefore hother hgt
      omega
  · intro hopens
    obtain rfl := hopens.eq hfound
    refine ⟨?_, hstop⟩
    rw [hoffset]
    exact Nat.le_add_right _ _

/-! ## The value at fault -/

/-- The entry of the configuration that is refused, with its value: the first one, in the order of
the checks, whose value is not made of plain identifiers. -/
inductive Configuration.Refuses (c : Configuration) : String → String → Prop
  | marker (h : ¬ IsQualifiedIdentifier c.marker) : Refuses c "marker" c.marker
  | nameArgument (hmarker : IsQualifiedIdentifier c.marker) (h : ¬ IsIdentifier c.nameArgument) :
      Refuses c "name_argument" c.nameArgument
  | fileName (hmarker : IsQualifiedIdentifier c.marker) (hname : IsIdentifier c.nameArgument)
      (h : ¬ IsIdentifier c.fileName) : Refuses c "file_name" c.fileName
  | package (hmarker : IsQualifiedIdentifier c.marker) (hname : IsIdentifier c.nameArgument)
      (hfile : IsIdentifier c.fileName) (h : ¬ IsQualifiedIdentifier c.package) :
      Refuses c "package" c.package

/-- Of checks one after another the first that fails gives the fault. -/
theorem bind_eq_error_iff {ε : Type} {check : Except ε Unit} {others : Unit → Except ε Unit}
    {fault : ε} :
    (check >>= others) = .error fault
      ↔ check = .error fault ∨ check = .ok () ∧ others () = .error fault := by
  cases check with
  | error found => simp [bind, Except.bind]
  | ok u => simp [bind, Except.bind]

namespace Scope

variable (s : Scope) {name kind : String} {fault : ManifestFault}

/-- The fault of a name marks the name. -/
theorem marks_of_checkName (h : s.checkName name kind = .error fault) :
    ¬ IsIdentifier name ∧ MarksPiece s.source.text name "" name fault.span? := by
  have hblames := s.blames_of_checkPiece_eq_error name kind h
  refine ⟨?_, ?_⟩
  · rw [← s.checkName_eq_ok_iff name kind, h]
    exact nofun
  · rw [hblames.span?_eq]
    exact s.source.marksPiece_whole name

/-- The fault of a qualified name marks a piece of the name. -/
theorem marks_of_checkQualifiedName (h : s.checkQualifiedName name kind = .error fault) :
    ¬ IsQualifiedIdentifier name ∧
      ∃ front piece, MarksPiece s.source.text name front piece fault.span? := by
  obtain ⟨earlier, piece, later, hsplit, -, hpiece⟩ := s.exists_of_checkPieces_eq_error _ h
  obtain ⟨tail, hname⟩ := exists_eq_dotted_append hsplit
  have hblames := s.blames_of_checkPiece_eq_error piece _ hpiece
  refine ⟨?_, dotted earlier, piece, ?_⟩
  · rw [← s.checkQualifiedName_eq_ok_iff name kind, h]
    exact nofun
  · rw [hblames.span?_eq]
    simpa only [Nat.zero_add] using s.source.marksPiece_findValue? hname

end Scope

namespace Manifest

/-- The fault of the names marks a piece of the value that is refused. -/
theorem exists_marks_of_checkNames {m : Manifest} {source : Source} {fault : ManifestFault}
    (h : m.checkNames source = .error fault) :
    ∃ key value, m.configuration.Refuses key value ∧
      ∃ front piece, MarksPiece source.text value front piece fault.span? := by
  simp only [checkNames, bind_eq_error_iff, Scope.checkQualifiedName_eq_ok_iff,
    Scope.checkName_eq_ok_iff] at h
  rcases h with h | ⟨hmarker, h | ⟨hname, h | ⟨hfile, h⟩⟩⟩
  · obtain ⟨hrefused, hmarks⟩ := Scope.marks_of_checkQualifiedName _ h
    exact ⟨_, _, .marker hrefused, hmarks⟩
  · obtain ⟨hrefused, hmarks⟩ := Scope.marks_of_checkName _ h
    exact ⟨_, _, .nameArgument hmarker hrefused, _, _, hmarks⟩
  · obtain ⟨hrefused, hmarks⟩ := Scope.marks_of_checkName _ h
    exact ⟨_, _, .fileName hmarker hname hrefused, _, _, hmarks⟩
  · obtain ⟨hrefused, hmarks⟩ := Scope.marks_of_checkQualifiedName _ h
    exact ⟨_, _, .package hmarker hname hfile hrefused, hmarks⟩

/-- **The mark is in the entry at fault exactly if the search meets that entry first.** Say that the
refused value stands between quotes in the source, as it is, behind `before`. Then it is marked,
unless it is empty, and the mark lies inside this place exactly if the place is the leftmost one of
the value between double quotes, or if there is none between double quotes, the leftmost one between
single quotes. -/
theorem mark_in_entry_iff_first {source : Source} {d : Data} {m : Manifest} {fault : ManifestFault}
    (htoml : Toml.parse? source.text = some d) (hdata : ofData d = .ok m)
    (hparse : parse source = .error fault) :
    ∃ key value, m.configuration.Refuses key value ∧
      ∀ quote ∈ ['"', '\''], quote ∉ value.toList →
      ∀ before, OccursBehind (quoted (String.singleton quote) value) source.text before →
        (fault.span? = none ↔ value = "") ∧
        ∀ place, fault.span? = some place →
          (place.Within (.ofValue before value) ↔ OpensBehind value source.text before) := by
  have hnames : m.checkNames source = .error fault := by
    rw [parse_of_ofData htoml hdata] at hparse
    cases hcheck : m.checkNames source with
    | error found => simpa [hcheck, Except.map] using hparse
    | ok u => simp [hcheck, Except.map] at hparse
  obtain ⟨key, value, hrefuses, front, piece, hmarks⟩ := exists_marks_of_checkNames hnames
  refine ⟨key, value, hrefuses, fun quote hquote hplain before hbefore => ⟨?_, ?_⟩⟩
  · rw [hmarks.eq_none_iff]
    refine or_iff_left fun hnowhere => ?_
    simp only [List.mem_cons, List.not_mem_nil, or_false] at hquote
    rcases hquote with rfl | rfl
    · exact hnowhere.1 ⟨before, hbefore⟩
    · exact hnowhere.2 ⟨before, hbefore⟩
  · intro place hplace
    exact hmarks.within_iff hplace hbefore hplain

end Manifest

/-! ## Two places for one value -/

namespace Manifest

/-- The mark that comes of a check. -/
def markOf? : Except ManifestFault Unit → Option Span
  | .error fault => fault.span?
  | .ok _ => none

/-- The mark in a source can be told from the configuration that it holds. -/
theorem exists_fault_of_markOf? (source : Source) (c : Configuration) (place : Span)
    (hread : (Toml.parse? source.text).bind (fun d => (ofData d).toOption.map (·.configuration))
      = some c)
    (hmark : markOf? (checkNames { configuration := c } source) = some place) :
    ∃ d m fault, Toml.parse? source.text = some d ∧ ofData d = .ok m ∧
      parse source = .error fault ∧ m.configuration = c ∧ fault.span? = some place := by
  obtain ⟨d, htoml, hshown⟩ := Option.bind_eq_some_iff.mp hread
  obtain ⟨m, hdata, rfl⟩ := exists_eq_ok_of_map_toOption hshown
  -- the declarations are not looked at
  have hcheck : checkNames { configuration := m.configuration } source = m.checkNames source := rfl
  rw [hcheck] at hmark
  have hparse := parse_of_ofData htoml hdata
  cases hnames : m.checkNames source with
  | error fault =>
      rw [hnames] at hmark hparse
      exact ⟨d, m, fault, htoml, hdata, hparse, rfl, hmark⟩
  | ok u =>
      rw [hnames] at hmark
      cases hmark

end Manifest

/-- A manifest whose file name is no identifier, with other lines before its table and behind it. -/
def commentedSource (before after : String) : Source where
  name := "fungen.toml"
  text := before ++ "[processor]\nfile_name = \"a-b\"\n" ++ after

theorem commentedSource_refuses :
    ({ fileName := "a-b" } : Configuration).Refuses "file_name" "a-b" :=
  .fileName (by decide) (by decide) (by decide)

/-- The file name is marked in its entry if the comment that mentions it comes later, since the
search meets the entry first. -/
theorem commentedSource_marked_inside :
    let source := commentedSource "" "# \"a-b\"\n"
    ∃ d m fault, Toml.parse? source.text = some d ∧ Manifest.ofData d = .ok m ∧
      Manifest.parse source = .error fault ∧ m.configuration.Refuses "file_name" "a-b" ∧
      fault.span? = some ⟨25, 3⟩ ∧
      Span.Within ⟨25, 3⟩ (.ofValue "[processor]\nfile_name = " "a-b") ∧
      OpensBehind "a-b" source.text "[processor]\nfile_name = " := by
  intro source
  obtain ⟨d, m, fault, htoml, hdata, hparse, hconfiguration, hspan⟩ :=
    Manifest.exists_fault_of_markOf? source { fileName := "a-b" } ⟨25, 3⟩ (by decide +kernel)
      (by decide +kernel)
  obtain ⟨key, value, hrefuses, hplace⟩ := Manifest.mark_in_entry_iff_first htoml hdata hparse
  have hwithin : Span.Within ⟨25, 3⟩ (.ofValue "[processor]\nfile_name = " "a-b") := by decide
  refine ⟨d, m, fault, htoml, hdata, hparse, hconfiguration ▸ commentedSource_refuses, hspan,
    hwithin, ?_⟩
  rw [hconfiguration] at hrefuses
  cases hrefuses with
  | marker h => exact absurd (by decide) h
  | nameArgument _ h => exact absurd (by decide) h
  | fileName _ _ _ =>
      have hentry : OccursBehind (quoted (String.singleton '"') "a-b") source.text
          "[processor]\nfile_name = " := ⟨"\n# \"a-b\"\n", by decide⟩
      exact ((hplace '"' (by decide) (by decide) _ hentry).2 _ hspan).mp hwithin
  | package _ _ hfile _ => exact absurd hfile (by decide)

/-- **A comment can take the mark.** It mentions the file name between quotes before the entry does,
and the mark is put into the comment. -/
theorem commentedSource_marked_outside :
    let source := commentedSource "# \"a-b\"\n" ""
    ∃ d m fault, Toml.parse? source.text = some d ∧ Manifest.ofData d = .ok m ∧
      Manifest.parse source = .error fault ∧ m.configuration.Refuses "file_name" "a-b" ∧
      OccursBehind (quoted "\"" "a-b") source.text "# \"a-b\"\n[processor]\nfile_name = " ∧
      fault.span? = some ⟨3, 3⟩ ∧
      ¬ Span.Within ⟨3, 3⟩ (.ofValue "# \"a-b\"\n[processor]\nfile_name = " "a-b") := by
  intro source
  obtain ⟨d, m, fault, htoml, hdata, hparse, hconfiguration, hspan⟩ :=
    Manifest.exists_fault_of_markOf? source { fileName := "a-b" } ⟨3, 3⟩ (by decide +kernel)
      (by decide +kernel)
  exact ⟨d, m, fault, htoml, hdata, hparse, hconfiguration ▸ commentedSource_refuses,
    ⟨"\n", by decide⟩, hspan, by decide⟩

end Stubsmith
