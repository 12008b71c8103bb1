import Stubsmith.Proofs.Manifest.Naming
import Stubsmith.Proofs.Text

/-!
# Where the fault of a name is marked

The mark of a fault covers exactly the piece that the fault names, byte for byte and between
characters. It stands inside the whole name as it is found between quotes: at the leftmost place
between double quotes, or if there is none at the leftmost one between single quotes. There is no
mark exactly if the name is empty or stands between no quotes (`Scope.fault_marks_piece`).
-/

namespace Stubsmith

open Kotlin Text

/-! ## Stretches of a text -/

/-- The span is the place of a stretch in a text: it does not reach beyond the text, it begins and
ends between characters, and its bytes are those of the stretch. -/
structure Span.Covers (span : Span) (text stretch : String) : Prop where
  stop_le : span.offset + span.length ≤ text.utf8ByteSize
  start_isValid : (⟨span.offset⟩ : String.Pos.Raw).IsValid text
  stop_isValid : (⟨span.offset + span.length⟩ : String.Pos.Raw).IsValid text
  bytes : text.toByteArray.extract span.offset (span.offset + span.length) = stretch.toByteArray

/-- A stretch is covered by the span that begins behind what stands before it. -/
theorem Span.covers_append (before stretch after : String) :
    Covers ⟨before.utf8ByteSize, stretch.utf8ByteSize⟩ (before ++ stretch ++ after) stretch where
  stop_le := by
    rw [String.utf8ByteSize_append, String.utf8ByteSize_append]
    exact Nat.le_add_right _ _
  start_isValid := by
    rw [String.Pos.Raw.isValid_iff_exists_append]
    exact ⟨before, stretch ++ after, String.append_assoc, rfl⟩
  stop_isValid := by
    rw [String.Pos.Raw.isValid_iff_exists_append]
    exact ⟨before ++ stretch, after, rfl, by simp [String.rawEndPos]⟩
  bytes := by
    rw [String.append_assoc, String.toByteArray_append, String.toByteArray_append]
    dsimp only
    rw [← String.size_toByteArray, ← Nat.add_zero before.toByteArray.size, Nat.add_assoc,
      ByteArray.extract_append_size_add, Nat.zero_add]
    exact ByteArray.extract_append_eq_left String.size_toByteArray.symm

/-! ## The place of a value -/

/-- A value between two quotes. -/
def quoted (quote value : String) : String :=
  quote ++ value ++ quote

/-- `before` is what stands before the opening quote of the value in a text: before its leftmost
place between double quotes, or if there is none before the leftmost one between single quotes. -/
inductive OpensBehind (value text before : String) : Prop where
  | double (h : FirstBehind (quoted "\"" value) text before)
  | single (hdouble : ¬ Occurs (quoted "\"" value) text)
      (h : FirstBehind (quoted "'" value) text before)

/-- Behind the opening quote, which takes one byte, the value stands in the text. -/
theorem OpensBehind.exists_eq_append {value text before : String}
    (h : OpensBehind value text before) :
    ∃ opening after, text = before ++ opening ++ value ++ after ∧ opening.utf8ByteSize = 1 := by
  cases h with
  | double h =>
      obtain ⟨after, htext⟩ := h.occurs
      refine ⟨"\"", "\"" ++ after, ?_, by decide⟩
      simpa only [quoted, String.append_assoc] using htext
  | single _ h =>
      obtain ⟨after, htext⟩ := h.occurs
      refine ⟨"'", "'" ++ after, ?_, by decide⟩
      simpa only [quoted, String.append_assoc] using htext

namespace Source

variable {source : Source} {value : String}

/-- A value has no place exactly if it is empty or stands between no quotes. -/
theorem findValue?_eq_none_iff :
    source.findValue? value = none
      ↔ value = "" ∨ ¬ Occurs (quoted "\"" value) source.text
          ∧ ¬ Occurs (quoted "'" value) source.text := by
  rw [findValue?]
  by_cases hempty : value = ""
  · rw [if_pos (String.isEmpty_iff.mpr hempty)]
    exact iff_of_true rfl (.inl hempty)
  · rw [if_neg (mt String.isEmpty_iff.mp hempty)]
    simp only [Option.or_eq_none_iff, Option.map_eq_none_iff, find?_eq_none_iff, quoted, hempty,
      false_or]

/-- The place of a value is behind its opening quote. -/
theorem opensBehind_of_findValue? {span : Span} (h : source.findValue? value = some span) :
    ∃ before, OpensBehind value source.text before ∧
      span = ⟨before.utf8ByteSize + 1, value.utf8ByteSize⟩ := by
  rw [findValue?] at h
  split at h
  · cases h
  simp only [Option.or_eq_some_iff, Option.map_eq_some_iff, Option.map_eq_none_iff] at h
  rcases h with ⟨offset, hfind, rfl⟩ | ⟨hdouble, offset, hfind, rfl⟩
  · obtain ⟨before, hfirst, rfl⟩ := exists_firstBehind_of_find? hfind
    exact ⟨before, .double hfirst, rfl⟩
  · obtain ⟨before, hfirst, rfl⟩ := exists_firstBehind_of_find? hfind
    exact ⟨before, .single (find?_eq_none_iff.mp hdouble) hfirst, rfl⟩

end Source

/-! ## The mark of a piece -/

theorem NamedPiece.Blames.span?_eq {source : Source} {span : Option Span} {piece : NamedPiece}
    {fault : ManifestFault} (h : piece.Blames source span fault) : fault.span? = span := by
  cases h with
  | reserved => rfl
  | invalid => rfl

/-- A span marks a piece of a name in a text, where `front` is what the name has before the piece.
There is none exactly if the name is empty or stands between no quotes. If there is one, it covers
the piece, and it lies inside the place of the name, as far into it as `front` reaches. -/
structure MarksPiece (text name front piece : String) (span : Option Span) : Prop where
  eq_none_iff : span = none
    ↔ name = "" ∨ ¬ Occurs (quoted "\"" name) text ∧ ¬ Occurs (quoted "'" name) text
  covers : ∀ place, span = some place → place.Covers text piece
  inside : ∀ place, span = some place → ∃ before, OpensBehind name text before ∧
    place.offset = before.utf8ByteSize + 1 + front.utf8ByteSize ∧
    place.offset + place.length ≤ before.utf8ByteSize + 1 + name.utf8ByteSize

/-- The place of a name, moved on to a piece of it, marks the piece. -/
theorem Source.marksPiece_findValue? (source : Source) {name front piece tail : String}
    (hname : name = front ++ piece ++ tail) :
    MarksPiece source.text name front piece ((source.findValue? name).map fun whole =>
      ⟨whole.offset + front.utf8ByteSize, piece.utf8ByteSize⟩) where
  eq_none_iff := by rw [Option.map_eq_none_iff, findValue?_eq_none_iff]
  covers := by
    intro place hplace
    obtain ⟨whole, hfind, rfl⟩ := Option.map_eq_some_iff.mp hplace
    obtain ⟨before, hopens, rfl⟩ := opensBehind_of_findValue? hfind
    obtain ⟨opening, after, htext, hopening⟩ := hopens.exists_eq_append
    have hcovers := Span.covers_append (before ++ opening ++ front) piece (tail ++ after)
    rw [htext, hname]
    simpa only [String.utf8ByteSize_append, hopening, String.append_assoc, Nat.add_assoc]
      using hcovers
  inside := by
    intro place hplace
    obtain ⟨whole, hfind, rfl⟩ := Option.map_eq_some_iff.mp hplace
    obtain ⟨before, hopens, rfl⟩ := opensBehind_of_findValue? hfind
    refine ⟨before, hopens, rfl, ?_⟩
    dsimp only
    rw [hname, String.utf8ByteSize_append, String.utf8ByteSize_append]
    omega

/-- The place of a whole name marks all of it. -/
theorem Source.marksPiece_whole (source : Source) (name : String) :
    MarksPiece source.text name "" name (source.findValue? name) := by
  have hname : name = "" ++ name ++ "" := by simp
  have hmarks := source.marksPiece_findValue? hname
  cases hfind : source.findValue? name with
  | none => rwa [hfind] at hmarks
  | some span =>
      obtain ⟨before, -, rfl⟩ := opensBehind_of_findValue? hfind
      rwa [hfind] at hmarks

/-! ## The checks -/

/-- What a qualified name has before the piece behind `earlier`: those pieces, a dot behind each. -/
def dotted (earlier : List String) : String :=
  .join (earlier.map (· ++ "."))

theorem utf8ByteSize_dotted_cons (piece : String) (earlier : List String) :
    (dotted (piece :: earlier)).utf8ByteSize
      = piece.utf8ByteSize + 1 + (dotted earlier).utf8ByteSize := by
  rw [dotted, List.map_cons, String.join_cons, String.utf8ByteSize_append,
    String.utf8ByteSize_append]
  rfl

/-- Behind the earlier pieces and their dots, the next piece of a name stands in it. -/
theorem exists_eq_dotted_append {name piece : String} {earlier later : List String}
    (h : split '.' name = earlier ++ piece :: later) :
    ∃ tail, name = dotted earlier ++ piece ++ tail := by
  have hname : ".".intercalate (earlier ++ piece :: later) = name := by
    rw [← h]
    exact intercalate_split '.' name
  rw [← hname]
  clear h hname
  induction earlier with
  | nil =>
      cases later with
      | nil => exact ⟨"", by simp [dotted]⟩
      | cons next rest =>
          refine ⟨"." ++ ".".intercalate (next :: rest), ?_⟩
          rw [List.nil_append, String.intercalate_cons_cons]
          simp [dotted, String.append_assoc]
  | cons first rest ih =>
      obtain ⟨tail, htail⟩ := ih
      refine ⟨tail, ?_⟩
      rw [List.cons_append, String.intercalate_cons_of_ne_nil (by simp), htail]
      simp [dotted, String.append_assoc]

namespace Scope

variable (s : Scope) (kind : String)

/-- If a check of pieces fails, it is for the first piece that is no identifier, with the span that
begins behind the pieces before it. -/
theorem exists_of_checkPieces_eq_error {whole : Option Span} {offset : Nat} {pieces : List String}
    {fault : ManifestFault} (h : s.checkPieces kind whole offset pieces = .error fault) :
    ∃ earlier piece later, pieces = earlier ++ piece :: later ∧
      (∀ segment ∈ earlier, IsPlainName segment) ∧
      s.checkPiece piece kind (whole.map fun w =>
          ⟨w.offset + (offset + (dotted earlier).utf8ByteSize), piece.utf8ByteSize⟩)
        = .error fault := by
  induction pieces generalizing offset with
  | nil => cases h
  | cons piece rest ih =>
      rw [checkPieces] at h
      cases hcheck : s.checkPiece piece kind (whole.map fun w =>
        ⟨w.offset + offset, piece.utf8ByteSize⟩) with
      | error found =>
          rw [hcheck] at h
          cases h
          exact ⟨[], piece, rest, rfl, by simp, hcheck⟩
      | ok _ =>
          rw [hcheck] at h
          obtain ⟨earlier, culprit, later, rfl, hearlier, hculprit⟩ := ih h
          have hpiece := (s.checkPiece_eq_ok_iff_isPlainName piece kind _).mp hcheck
          refine ⟨piece :: earlier, culprit, later, rfl, ?_, ?_⟩
          · exact List.forall_mem_cons.mpr ⟨hpiece, hearlier⟩
          · simpa only [utf8ByteSize_dotted_cons, Nat.add_assoc] using hculprit

/-- **The mark of a fault covers what the fault is about.** A name that is checked as one is blamed
and marked as a whole. Of a name that is checked piece by piece, the first piece that is no
identifier is blamed and marked. -/
theorem fault_marks_piece (name : String) (fault : ManifestFault) :
    (s.checkName name kind = .error fault →
      NamedPiece.Blames s.source fault.span? ⟨name, s.describe kind⟩ fault ∧
        MarksPiece s.source.text name "" name fault.span?) ∧
    (s.checkQualifiedName name kind = .error fault →
      ∃ earlier piece later, split '.' name = earlier ++ piece :: later ∧
        (∀ segment ∈ earlier, IsPlainName segment) ∧ ¬ IsPlainName piece ∧
        NamedPiece.Blames s.source fault.span? ⟨piece, s.describe (kind ++ " segment")⟩ fault ∧
        MarksPiece s.source.text name (dotted earlier) piece fault.span?) := by
  constructor
  · intro h
    have hblames := s.blames_of_checkPiece_eq_error name kind h
    rw [hblames.span?_eq]
    exact ⟨hblames, s.source.marksPiece_whole name⟩
  · intro h
    obtain ⟨earlier, piece, later, hsplit, hearlier, hpiece⟩ :=
      s.exists_of_checkPieces_eq_error _ h
    obtain ⟨tail, hname⟩ := exists_eq_dotted_append hsplit
    have hblames := s.blames_of_checkPiece_eq_error piece _ hpiece
    have hmarks := s.source.marksPiece_findValue? hname
    rw [hblames.span?_eq]
    refine ⟨earlier, piece, later, hsplit, hearlier, ?_, hblames, ?_⟩
    · rw [← s.checkPiece_eq_ok_iff_isPlainName piece (kind ++ " segment"), hpiece]
      exact nofun
    · simpa only [Nat.zero_add] using hmarks

end Scope

/-- A source with one name between quotes of both kinds. -/
def twiceQuotedSource : Source where
  name := "fungen.toml"
  text := "file_name = 'größe.fun'\npackage = \"größe.fun\"\n"

/-- What the names of `twiceQuotedSource` are checked in. -/
def twiceQuotedScope : Scope where
  source := twiceQuotedSource

/-- In `twiceQuotedSource` the name is marked between the double quotes, and its second piece there,
although the single quotes come first and some letters take two bytes. -/
theorem twiceQuotedScope_marks :
    twiceQuotedScope.checkName "größe.fun" "file name"
        = .error (.invalidIdentifier twiceQuotedSource (some ⟨37, 11⟩) "größe.fun" "file name"
            NameFault.badPart.reason) ∧
      twiceQuotedScope.checkQualifiedName "größe.fun" "package"
        = .error (.reservedKeyword twiceQuotedSource (some ⟨45, 3⟩) "fun" "package segment") ∧
      Span.Covers ⟨37, 11⟩ twiceQuotedSource.text "größe.fun" ∧
      Span.Covers ⟨45, 3⟩ twiceQuotedSource.text "fun" := by
  have hname : twiceQuotedScope.checkName "größe.fun" "file name"
      = .error (.invalidIdentifier twiceQuotedSource (some ⟨37, 11⟩) "größe.fun" "file name"
          NameFault.badPart.reason) := rfl
  have hqualified : twiceQuotedScope.checkQualifiedName "größe.fun" "package"
      = .error (.reservedKeyword twiceQuotedSource (some ⟨45, 3⟩) "fun" "package segment") := rfl
  refine ⟨hname, hqualified, ?_, ?_⟩
  · obtain ⟨-, hmarks⟩ := (twiceQuotedScope.fault_marks_piece "file name" "größe.fun" _).1 hname
    exact hmarks.covers _ rfl
  · obtain ⟨earlier, piece, later, -, -, -, hblames, hmarks⟩ :=
      (twiceQuotedScope.fault_marks_piece "package" "größe.fun" _).2 hqualified
    cases hblames with
    | reserved => exact hmarks.covers _ rfl

end Stubsmith
