import Stubsmith.Proofs.Manifest.Names

/-!
# Which manifests are accepted

A manifest that can be read from its document is accepted exactly if all pieces of the names in its
configuration follow the grammar of identifiers. If one does not, the first such piece is blamed,
and the fault tells what is wrong with it (`Manifest.parse_follows_grammar`). First comes what marks
the declarations and names their functions, then the file and its package.
-/

namespace Stubsmith

open Kotlin

/-! ## The pieces of names -/

/-- A piece of a name, with the words that tell what it is for and where it stands. -/
structure NamedPiece where
  text : String
  context : String
  deriving DecidableEq, Repr

/-- The pieces of the names in a configuration, in the order in which they are checked. -/
def Configuration.pieces (c : Configuration) : List NamedPiece :=
  (Text.split '.' c.marker).map (⟨·, "marker segment in 'processor'"⟩)
    ++ ([⟨c.nameArgument, "name argument in 'processor'"⟩]
      ++ ([⟨c.fileName, "file name in 'processor'"⟩]
        ++ (Text.split '.' c.package).map (⟨·, "package segment in 'processor'"⟩)))

/-- The fault that a piece is blamed with if it stands at a span: a hard keyword is reserved, and
any other piece is no identifier, for the reason that it has. -/
inductive NamedPiece.Blames (source : Source) (span : Option Span) (piece : NamedPiece) :
    ManifestFault → Prop where
  | reserved (h : piece.text ∈ hardKeywords) :
      Blames source span piece (.reservedKeyword source span piece.text piece.context)
  | invalid (h : piece.text ∉ hardKeywords) (reason : NameFault)
      (hreason : reason.Describes piece.text) :
      Blames source span piece
        (.invalidIdentifier source span piece.text piece.context reason.reason)

/-- What comes of checking pieces: nothing is wrong if all of them follow the grammar, and else the
first one that does not is blamed. -/
def Decides (source : Source) (pieces : List NamedPiece) (outcome : Except ManifestFault Unit) :
    Prop :=
  match pieces.find? fun piece => ¬ IsPlainName piece.text with
  | none => outcome = .ok ()
  | some piece => ∃ span fault, outcome = .error fault ∧ piece.Blames source span fault

/-- Checks one after another decide the pieces of both. -/
theorem Decides.bind {source : Source} {pieces others : List NamedPiece}
    {check : Except ManifestFault Unit} {more : Unit → Except ManifestFault Unit}
    (h : Decides source pieces check) (hmore : Decides source others (more ())) :
    Decides source (pieces ++ others) (check >>= more) := by
  rw [Decides, List.find?_append]
  rw [Decides] at h
  cases hfind : pieces.find? fun piece => ¬ IsPlainName piece.text with
  | none =>
      rw [hfind] at h
      rw [h]
      exact hmore
  | some piece =>
      rw [hfind] at h
      obtain ⟨span, fault, rfl, hblames⟩ := h
      exact ⟨span, fault, rfl, hblames⟩

/-- Nothing is wrong exactly if all pieces follow the grammar. -/
theorem Decides.eq_ok_iff {source : Source} {pieces : List NamedPiece}
    {outcome : Except ManifestFault Unit} (h : Decides source pieces outcome) :
    outcome = .ok () ↔ ∀ piece ∈ pieces, IsPlainName piece.text := by
  rw [Decides] at h
  cases hfind : pieces.find? fun piece => ¬ IsPlainName piece.text with
  | none =>
      rw [hfind] at h
      exact iff_of_true h (by simpa using hfind)
  | some piece =>
      rw [hfind] at h
      obtain ⟨span, fault, rfl, -⟩ := h
      have hpiece : ¬ IsPlainName piece.text := by simpa using List.find?_some hfind
      exact iff_of_false nofun fun hall => hpiece (hall piece (List.mem_of_find?_eq_some hfind))

/-- The first piece that does not follow the grammar is the one that is blamed. -/
theorem Decides.exists_blames {source : Source} {before after : List NamedPiece}
    {piece : NamedPiece} {outcome : Except ManifestFault Unit}
    (h : Decides source (before ++ piece :: after) outcome)
    (hbefore : ∀ earlier ∈ before, IsPlainName earlier.text) (hpiece : ¬ IsPlainName piece.text) :
    ∃ span fault, outcome = .error fault ∧ piece.Blames source span fault := by
  have hfirst : (before ++ piece :: after).find? (fun piece => ¬ IsPlainName piece.text)
      = some piece := by
    rw [List.find?_eq_some_iff_append]
    exact ⟨by simpa using hpiece, before, after, rfl, by simpa using hbefore⟩
  rw [Decides, hfirst] at h
  exact h

/-! ## The checks -/

namespace Scope

variable (s : Scope) (name kind : String)

/-- A name is accepted exactly if it follows the grammar. -/
theorem checkPiece_eq_ok_iff_isPlainName (span : Option Span) :
    s.checkPiece name kind span = .ok () ↔ IsPlainName name := by
  rw [checkPiece_eq_ok_iff, isIdentifier_iff]

/-- A check that fails blames the name that it is about. -/
theorem blames_of_checkPiece_eq_error {span : Option Span} {fault : ManifestFault}
    (h : s.checkPiece name kind span = .error fault) :
    NamedPiece.Blames s.source span ⟨name, s.describe kind⟩ fault := by
  unfold checkPiece at h
  cases hfound : identifierFault? name with
  | none =>
      rw [hfound] at h
      cases h
  | some found =>
      have hdescribes := identifierFault?_eq_some_iff.mp hfound
      have hkeyword : found ≠ .hardKeyword → name ∉ hardKeywords := by
        intro hne hmem
        rw [identifierFault?, if_pos (isHardKeyword_iff.mpr hmem)] at hfound
        exact hne (Option.some_inj.mp hfound).symm
      rw [hfound] at h
      cases found with
      | hardKeyword =>
          cases h
          cases hdescribes with
          | hardKeyword hmem => exact .reserved hmem
      | empty | badStart | badPart =>
          cases h
          exact .invalid (hkeyword (by decide)) _ hdescribes

theorem checkPiece_decides (span : Option Span) :
    Decides s.source [⟨name, s.describe kind⟩] (s.checkPiece name kind span) := by
  rw [Decides, List.find?_singleton]
  by_cases hplain : IsPlainName name
  · simpa [hplain] using (s.checkPiece_eq_ok_iff_isPlainName name kind span).mpr hplain
  · have hne : s.checkPiece name kind span ≠ .ok () :=
      mt (s.checkPiece_eq_ok_iff_isPlainName name kind span).mp hplain
    simp only [hplain, not_false_eq_true, decide_true, if_true]
    cases hcheck : s.checkPiece name kind span with
    | ok _ => exact absurd hcheck hne
    | error fault => exact ⟨span, fault, rfl, s.blames_of_checkPiece_eq_error name kind hcheck⟩

theorem checkPieces_decides (whole : Option Span) (offset : Nat) (pieces : List String) :
    Decides s.source (pieces.map (⟨·, s.describe kind⟩))
      (s.checkPieces kind whole offset pieces) := by
  induction pieces generalizing offset with
  | nil => rfl
  | cons piece rest ih => exact (s.checkPiece_decides piece kind _).bind (ih _)

end Scope

namespace Manifest

theorem checkNames_decides (m : Manifest) (source : Source) :
    Decides source m.configuration.pieces (m.checkNames source) := by
  let scope := ({ source } : Scope).enter "processor"
  exact (scope.checkPieces_decides "marker segment" _ 0 _).bind
    ((scope.checkPiece_decides _ "name argument" _).bind
      ((scope.checkPiece_decides _ "file name" _).bind
        (scope.checkPieces_decides "package segment" _ 0 _)))

/-- A manifest that could be read from its document has only its names to be checked. -/
theorem parse_of_ofData {source : Source} {d : Data} {m : Manifest}
    (htoml : Toml.parse? source.text = some d) (hdata : ofData d = .ok m) :
    parse source = (m.checkNames source).map fun _ => m := by
  rw [parse, htoml]
  dsimp only
  rw [hdata]
  dsimp only
  cases m.checkNames source with
  | error fault => rfl
  | ok _ => rfl

/-- **Accepted are the manifests whose names follow the grammar**, and the first piece of a name
that does not follow it is blamed. -/
theorem parse_follows_grammar {source : Source} {d : Data} {m : Manifest}
    (htoml : Toml.parse? source.text = some d) (hdata : ofData d = .ok m) :
    (parse source = .ok m ↔ ∀ piece ∈ m.configuration.pieces, IsPlainName piece.text) ∧
      ∀ before piece after, m.configuration.pieces = before ++ piece :: after →
        (∀ earlier ∈ before, IsPlainName earlier.text) → ¬ IsPlainName piece.text →
        ∃ span fault, parse source = .error fault ∧ piece.Blames source span fault := by
  have hdecides := m.checkNames_decides source
  have hparse := parse_of_ofData htoml hdata
  constructor
  · rw [← hdecides.eq_ok_iff, hparse]
    cases m.checkNames source with
    | error fault => simp [Except.map]
    | ok _ => simp [Except.map]
  · intro before piece after hpieces hbefore hpiece
    rw [hpieces] at hdecides
    obtain ⟨span, fault, hcheck, hblames⟩ := hdecides.exists_blames hbefore hpiece
    rw [hcheck] at hparse
    exact ⟨span, fault, hparse, hblames⟩

end Manifest

/-- A manifest whose package has a hard keyword between two plain pieces. -/
def keywordSource : Source where
  name := "fungen.toml"
  text := "[processor]\npackage = \"org.fun.größe\"\n"

/-- The package of `keywordSource` is refused for its second piece. -/
theorem keywordSource_refused :
    ∃ d m span, Toml.parse? keywordSource.text = some d ∧ Manifest.ofData d = .ok m ∧
      Manifest.parse keywordSource = .error
        (.reservedKeyword keywordSource span "fun" "package segment in 'processor'") := by
  obtain ⟨d, htoml, hread⟩ : ∃ d, Toml.parse? keywordSource.text = some d ∧
      (Manifest.ofData d).toOption.map (·.configuration)
        = some { package := "org.fun.größe" } :=
    Option.bind_eq_some_iff.mp (by decide +kernel)
  obtain ⟨m, hdata, hconfiguration⟩ := exists_eq_ok_of_map_toOption hread
  have hpieces : m.configuration.pieces =
      [⟨"org", "marker segment in 'processor'"⟩, ⟨"example", "marker segment in 'processor'"⟩,
        ⟨"Function", "marker segment in 'processor'"⟩,
        ⟨"erstesArgument", "name argument in 'processor'"⟩,
        ⟨"GeneratedFunctions", "file name in 'processor'"⟩,
        ⟨"org", "package segment in 'processor'"⟩] ++
      ⟨"fun", "package segment in 'processor'"⟩ ::
        [⟨"größe", "package segment in 'processor'"⟩] := by
    rw [hconfiguration]
    decide
  obtain ⟨span, fault, hparse, hblames⟩ :=
    (Manifest.parse_follows_grammar htoml hdata).2 _ _ _ hpieces (by decide) (by decide)
  refine ⟨d, m, span, htoml, hdata, ?_⟩
  cases hblames with
  | reserved => exact hparse
  | invalid hkeyword => exact absurd (by decide) hkeyword

end Stubsmith
