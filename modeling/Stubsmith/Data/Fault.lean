import Stubsmith.Data.Basic
import Stubsmith.Decimal.Notation
import Stubsmith.Text.Quoted

/-!
# Faults of data

Why a tree of data does not describe the value that was asked for. A fault names its cause; the
wording is in `DataFault.message` and depends a little on the format that the data came from.
-/

namespace Stubsmith

/-- The format that a tree was read from. The two differ in a few decisions of decoding. -/
inductive DataFormat where
  | json
  | toml
  deriving DecidableEq, Repr

/-- How a number that is not wanted is shown. -/
def DataFormat.floatStyle : DataFormat → Decimal.FloatStyle
  | .json => .scientific
  | .toml => .marked

/-- What stands where something else was expected. -/
inductive Found where
  | null
  | boolean (value : Bool)
  | integer (value : Int)
  | float (value : Float)
  | text (value : String)
  | list
  | record

/-- What a tree is, seen from outside. -/
def Data.found : Data → Found
  | null => .null
  | boolean b => .boolean b
  | integer i => .integer i
  | float x => .float x
  | text s => .text s
  | moment _ => .record
  | list _ => .list
  | record _ => .record

/-- The word for the kind of a tree. -/
def Data.kindName : Data → String
  | null => "null"
  | boolean _ => "boolean"
  | integer _ => "integer"
  | float _ => "float"
  | text _ => "string"
  | moment _ => "datetime"
  | list _ => "array"
  | record _ => "table"

/-- What was expected. -/
inductive Expected where
  | text
  | boolean
  | list
  | map
  | nothing
  | choice
  | shape (name : String)
  deriving DecidableEq, Repr

/-- Why a tree does not describe the wanted value. -/
inductive DataFault where
  | mismatch (found : Found) (expected : Expected)
  | missingField (name : String)
  | unknownField (name : String) (known : List String)
  | unknownChoice (name : String) (known : List String)
  | tooShort (length : Nat) (shape : String) (size : Nat)
  | tooLong (length : Nat)
  | notOneKey (count : Nat)
  | choiceExpected
  | emptyListExpected
  | emptyRecordExpected
  | recordExpected (kind : String)
  | notAConstant
  | outOfRange (value : Int)

namespace Found

/-- What was found, in words. -/
def phrase (format : DataFormat) : Found → String
  | null => "null"
  | boolean b => "boolean `" ++ (if b then "true" else "false") ++ "`"
  | integer i => "integer `" ++ toString i ++ "`"
  | float x => "floating point `" ++ format.floatStyle.format x ++ "`"
  | text s => "string " ++ Text.quoted s
  | list => "sequence"
  | record => "map"

end Found

namespace Expected

/-- What was expected, in words. -/
def phrase : Expected → String
  | text => "a string"
  | boolean => "a boolean"
  | list => "a sequence"
  | map => "a map"
  | nothing => "unit"
  | choice => "string or map"
  | shape name => "struct " ++ name

end Expected

namespace DataFault

/-- The known names, in words. -/
def oneOf (known : List String) : String :=
  match known.map fun name => "`" ++ name ++ "`" with
  | [a, b] => a ++ " or " ++ b
  | names => "one of " ++ ", ".intercalate names

/-- The fault in words. -/
def message (format : DataFormat) : DataFault → String
  | mismatch found expected =>
    "invalid type: " ++ found.phrase format ++ ", expected " ++ expected.phrase
  | missingField name => "missing field `" ++ name ++ "`"
  | unknownField name known => "unknown field `" ++ name ++ "`, expected " ++ oneOf known
  | unknownChoice name known => "unknown variant `" ++ name ++ "`, expected " ++ oneOf known
  | tooShort length shape size =>
    "invalid length " ++ toString length ++ ", expected struct " ++ shape ++ " with "
      ++ toString size ++ " elements"
  | tooLong length =>
    "invalid length " ++ toString length ++ ", expected fewer elements in array"
  | notOneKey count =>
    match format with
    | .json => "invalid value: map, expected map with a single key"
    | .toml =>
      if count = 0 then "wanted exactly 1 element, found 0 elements"
      else "wanted exactly 1 element, more than 1 element"
  | choiceExpected => "wanted string or table"
  | emptyListExpected => "expected empty array"
  | emptyRecordExpected => "expected empty table"
  | recordExpected kind => "expected table, found " ++ kind
  | notAConstant => "data did not match any variant of untagged enum ArgumentValue"
  | outOfRange value => "integer `" ++ toString value ++ "` is out of range"

end DataFault

end Stubsmith
