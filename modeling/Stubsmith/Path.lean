import Stubsmith.Text.Split

/-!
# File paths

A path is the list of its segments: what stands between the slashes of its text. The text is never
normalised, so a path prints as it was given; `a//b` and `a/b` are two paths to one file. An
absolute path is one whose text begins with a slash, that is, one whose first segment is empty and
not the only one. The text is Unicode: paths of other bytes, which a disk may have, are left out.
-/

namespace Stubsmith

/-- A path, as the segments between the slashes of its text. -/
structure Path where
  segments : List String
  deriving DecidableEq, Repr

namespace Path

/-- The path written as `text`. -/
def ofText (text : String) : Path :=
  ⟨Text.split '/' text⟩

/-- The text of the path. -/
def text (p : Path) : String :=
  "/".intercalate p.segments

/-- The path with the empty text. -/
def empty : Path :=
  ⟨[""]⟩

/-- Whether the path starts at the root of the disk. -/
def isAbsolute (p : Path) : Bool :=
  match p.segments with
  | "" :: _ :: _ => true
  | _ => false

/-- `base` followed by `tail`. An absolute `tail` takes the place of `base`; otherwise the two are
joined by one slash, which is left out where `base` is empty or already ends in one. -/
def join (base tail : Path) : Path :=
  if tail.isAbsolute then tail
  else match base.segments.reverse with
    | "" :: reversed => ⟨reversed.reverse ++ tail.segments⟩
    | _ => ⟨base.segments ++ tail.segments⟩

/-- Removes from the end the segments that name nothing: empty ones and single dots. -/
def trimRight (segments : List String) : List String :=
  (segments.reverse.dropWhile fun s => s = "" || s = ".").reverse

/-- The path without its last component, in the text's own spelling. A leading dot and the root
slash are components of their own; the empty path and the root have no parent. -/
def parent? (p : Path) : Option Path :=
  match p.segments with
  | "" :: rest@(_ :: _) =>
    match trimRight rest with
    | [] => none
    | named => match trimRight named.dropLast with
      | [] => some ⟨["", ""]⟩
      | above => some ⟨"" :: above⟩
  | "." :: rest =>
    match trimRight rest with
    | [] => some empty
    | named => some ⟨"." :: trimRight named.dropLast⟩
  | segments =>
    match trimRight segments with
    | [] => none
    | named => match trimRight named.dropLast with
      | [] => some empty
      | above => some ⟨above⟩

/-- The path followed by its parent, the parent's parent and so on, for at most `fuel` steps. -/
def ancestorsUpTo : Nat → Path → List Path
  | 0, p => [p]
  | fuel + 1, p =>
    match p.parent? with
    | none => [p]
    | some above => p :: ancestorsUpTo fuel above

/-- The path followed by everything above it, nearest first. Each step up drops a segment, so there
are no more steps than segments. -/
def ancestors (p : Path) : List Path :=
  ancestorsUpTo (p.segments.length + 1) p

/-- The names along the path, as the disk follows them: empty segments name nothing. -/
def names (p : Path) : List String :=
  p.segments.filter (· ≠ "")

/-- Whether the text ends in a slash. -/
def endsInSlash (p : Path) : Bool :=
  p.segments.length > 1 && p.segments.getLast? == some ""

/-- The directories of a package, one for each of its segments that is not empty. -/
def ofPackage (package : String) : Path :=
  ((Text.split '.' package).filter (· ≠ "")).foldl (fun p segment => p.join (ofText segment)) empty

end Path

end Stubsmith
