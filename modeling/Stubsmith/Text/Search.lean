/-!
# Finding a text inside another

Places in a text are counted in bytes of its UTF-8 form, so that a place can be handed to any tool
that reads the same file.
-/

namespace Stubsmith.Text

/-- The number of bytes that the characters take in UTF-8. -/
def byteLength : List Char → Nat
  | [] => 0
  | c :: rest => c.utf8Size + byteLength rest

@[simp] theorem byteLength_append (a b : List Char) :
    byteLength (a ++ b) = byteLength a + byteLength b := by
  induction a with
  | nil => simp [byteLength]
  | cons c rest ih => simp [byteLength, ih, Nat.add_assoc]

/-- The byte offset of the leftmost occurrence of `pattern` in a text whose first character stands
at `offset`. -/
def findFrom (pattern : List Char) (offset : Nat) : List Char → Option Nat
  | [] => if pattern.isEmpty then some offset else none
  | c :: rest =>
    if pattern.isPrefixOf (c :: rest) then some offset
    else findFrom pattern (offset + c.utf8Size) rest

/-- The byte offset of the leftmost occurrence of `pattern` in `text`. -/
def find? (pattern text : String) : Option Nat :=
  findFrom pattern.toList 0 text.toList

end Stubsmith.Text
