import Stubsmith.Manifest.Basic
import Stubsmith.Proofs.Kotlin.Name

/-!
# The names of a manifest

What the checks of a manifest accept: single names that are plain identifiers, and qualified names
whose pieces all are (`Manifest.checkNames_eq_ok_iff`). A manifest that is read from its source has
passed these checks (`Manifest.hasPlainNames_of_parse`).
-/

namespace Stubsmith

open Kotlin

namespace Kotlin

/-- Whether the name consists of plain identifiers with dots between them. -/
def IsQualifiedIdentifier (name : String) : Prop :=
  ∀ piece ∈ Text.split '.' name, IsIdentifier piece

instance (name : String) : Decidable (IsQualifiedIdentifier name) :=
  inferInstanceAs (Decidable (∀ piece ∈ Text.split '.' name, IsIdentifier piece))

end Kotlin

/-- Checks one after another accept if each of them does. -/
theorem bind_eq_ok_iff {ε : Type} {check : Except ε Unit} {others : Unit → Except ε Unit} :
    (check >>= others) = .ok () ↔ check = .ok () ∧ others () = .ok () := by
  cases check with
  | error fault => simp [bind, Except.bind]
  | ok u => simp [bind, Except.bind]

/-- A result that shows something is a success. -/
theorem exists_eq_ok_of_map_toOption {ε α β : Type} {r : Except ε α} {f : α → β} {b : β}
    (h : r.toOption.map f = some b) : ∃ a, r = .ok a ∧ f a = b := by
  cases r with
  | error fault => cases h
  | ok a =>
      injection h with h
      exact ⟨a, rfl, h⟩

namespace Scope

variable (s : Scope) (name kind : String)

theorem checkPiece_eq_ok_iff (span : Option Span) :
    s.checkPiece name kind span = .ok () ↔ IsIdentifier name := by
  unfold checkPiece IsIdentifier
  cases identifierFault? name with
  | none => simp
  | some fault => cases fault <;> simp

theorem checkPieces_eq_ok_iff (whole : Option Span) (offset : Nat) (pieces : List String) :
    s.checkPieces kind whole offset pieces = .ok () ↔ ∀ piece ∈ pieces, IsIdentifier piece := by
  induction pieces generalizing offset with
  | nil => simp [checkPieces]
  | cons piece rest ih =>
      rw [checkPieces, bind_eq_ok_iff, checkPiece_eq_ok_iff, ih, List.forall_mem_cons]

theorem checkName_eq_ok_iff : s.checkName name kind = .ok () ↔ IsIdentifier name :=
  s.checkPiece_eq_ok_iff name kind _

theorem checkQualifiedName_eq_ok_iff :
    s.checkQualifiedName name kind = .ok () ↔ IsQualifiedIdentifier name :=
  s.checkPieces_eq_ok_iff _ _ 0 _

end Scope

/-- The names that go into the generated file or tell what goes into it are plain. -/
structure Configuration.HasPlainNames (c : Configuration) : Prop where
  marker : IsQualifiedIdentifier c.marker
  nameArgument : IsIdentifier c.nameArgument
  fileName : IsIdentifier c.fileName
  package : IsQualifiedIdentifier c.package

namespace Manifest

/-- The checks accept exactly the manifests with plain names. -/
theorem checkNames_eq_ok_iff (m : Manifest) (source : Source) :
    m.checkNames source = .ok () ↔ m.configuration.HasPlainNames := by
  simp only [checkNames, bind_eq_ok_iff, Scope.checkQualifiedName_eq_ok_iff,
    Scope.checkName_eq_ok_iff]
  constructor
  · rintro ⟨hmarker, hargument, hfile, hpackage⟩
    exact ⟨hmarker, hargument, hfile, hpackage⟩
  · rintro ⟨hmarker, hargument, hfile, hpackage⟩
    exact ⟨hmarker, hargument, hfile, hpackage⟩

/-- A manifest that is read from a source has plain names. -/
theorem hasPlainNames_of_parse {source : Source} {m : Manifest} (h : parse source = .ok m) :
    m.configuration.HasPlainNames := by
  unfold parse at h
  split at h
  · cases h
  · split at h
    · cases h
    · split at h
      · cases h
      · next hnames =>
          cases h
          exact (checkNames_eq_ok_iff _ source).mp hnames

end Manifest

end Stubsmith
