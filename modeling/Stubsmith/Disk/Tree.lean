import Stubsmith.OrderedMap

/-!
# Trees of directories and files

What a disk holds: files with their bytes, and directories of named entries. A place in the tree is
the list of the names that lead to it.
-/

namespace Stubsmith

/-- A file or a directory with everything below it. -/
inductive Tree where
  | file (content : ByteArray)
  | directory (entries : List (String × Tree))

namespace Tree

/-- Whether this is a directory. -/
def isDirectory : Tree → Bool
  | directory _ => true
  | file _ => false

/-- The entry of that name; a file has none. -/
def child? : Tree → String → Option Tree
  | file _, _ => none
  | directory entries, name => entries.lookup name

/-- The directory with an entry set; a file stays as it is. -/
def setChild : Tree → String → Tree → Tree
  | file content, _, _ => file content
  | directory entries, name, t => directory (OrderedMap.setEntry name t entries)

/-- What stands at a place. -/
def at? : Tree → List String → Option Tree
  | t, [] => some t
  | t, name :: rest =>
    match t.child? name with
    | some u => u.at? rest
    | none => none

/-- The tree with something else at a place. Nothing changes unless every directory on the way to
the place is there. -/
def setAt : Tree → List String → Tree → Tree
  | _, [], u => u
  | t, [name], u => t.setChild name u
  | t, name :: rest, u =>
    match t.child? name with
    | some inner => t.setChild name (inner.setAt rest u)
    | none => t

mutual

/-- All files, and the directories without entries, each with its path from `above`. The path of a
directory ends in a slash and its content is `none`. -/
def leaves (above : String) : Tree → List (String × Option ByteArray)
  | file content => [(above, some content)]
  | directory [] => [(above ++ "/", none)]
  | directory entries => leavesOfEntries above entries

/-- The leaves below the entries of a directory. -/
def leavesOfEntries (above : String) : List (String × Tree) → List (String × Option ByteArray)
  | [] => []
  | (name, t) :: rest => leaves (above ++ "/" ++ name) t ++ leavesOfEntries above rest

end

end Tree

end Stubsmith
