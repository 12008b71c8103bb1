/-!
# Data trees

What a configuration file or a JSON text holds before it is given a meaning: scalars, lists and
records. The fields of a record keep the order in which they are to be read.
-/

namespace Stubsmith

/-- A tree of plain data. -/
inductive Data where
  | null
  | boolean (value : Bool)
  | integer (value : Int)
  | float (value : Float)
  | text (value : String)
  /-- A date, a time or both, in its normal spelling. -/
  | moment (value : String)
  | list (items : List Data)
  | record (fields : List (String × Data))

namespace Data

/-- The key under which a moment appears where a record is expected: it counts as a record with its
spelling as the only field. -/
def momentKey : String :=
  "$__toml_private_datetime"

/-- Whether the tree is null. -/
def isNull : Data → Bool
  | null => true
  | _ => false

end Data

end Stubsmith
