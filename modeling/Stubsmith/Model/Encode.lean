import Stubsmith.Data.Basic
import Stubsmith.Decimal.Binary64
import Stubsmith.Model.Configuration
import Stubsmith.Model.Declaration

/-!
# Writing the model as data trees

For every type of the model a function `toData`. Records list their fields in a fixed order; empty
lists and missing names and types are left out, marks and variances are always there.
-/

namespace Stubsmith

/-- The word under which a variance is written. -/
def Variance.word : Variance → String
  | invariant => "invariant"
  | covariant => "out"
  | contravariant => "in"
  | star => "star"

/-- The field, unless the list is empty. -/
def Data.listField (name : String) (items : List Data) : List (String × Data) :=
  if items.isEmpty then [] else [(name, .list items)]

mutual

/-- The tree of a type reference. -/
def TypeRef.toData : TypeRef → Data
  | ⟨name, nullable, arguments⟩ =>
    .record ((match name with
      | some n => [("name", Data.text n)]
      | none => [])
      ++ [("nullable", .boolean nullable)]
      ++ Data.listField "arguments" (TypeRef.argumentsToData arguments))

/-- The trees of generic arguments. -/
def TypeRef.argumentsToData : List (Projection TypeRef) → List Data
  | [] => []
  | a :: rest => TypeRef.argumentToData a :: TypeRef.argumentsToData rest

/-- The tree of a generic argument. -/
def TypeRef.argumentToData : Projection TypeRef → Data
  | ⟨variance, type⟩ => .record (("variance", .text variance.word) :: TypeRef.typeField type)

/-- The field with the type of a generic argument, if there is one. -/
def TypeRef.typeField : Option TypeRef → List (String × Data)
  | some t => [("type", TypeRef.toData t)]
  | none => []

end

/-- The tree of a generic argument. -/
def TypeArgument.toData : TypeArgument → Data :=
  TypeRef.argumentToData

/-- The tree of a constant. A number that is not finite has none and is written as null. -/
def Constant.toData : Constant → Data
  | boolean b => .boolean b
  | integer i => .integer i.toInt
  | float x => if Decimal.isFinite x then .float x else .null
  | text s => .text s

/-- The tree of an annotation. -/
def Annotation.toData (a : Annotation) : Data :=
  let arguments := a.arguments.entries.map fun (key, value) => (key, value.toData)
  .record (("name", .text a.name)
    :: (if arguments.isEmpty then [] else [("arguments", .record arguments)]))

/-- The tree of a property. -/
def Property.toData (p : Property) : Data :=
  .record [("name", .text p.name), ("type", p.type.toData), ("valid", .boolean p.valid)]

/-- The tree of a declaration. -/
def Declaration.toData (d : Declaration) : Data :=
  .record ([("name", .text d.name), ("kind", .text d.kind.label)]
    ++ Data.listField "annotations" (d.annotations.map Annotation.toData)
    ++ Data.listField "properties" (d.properties.map Property.toData)
    ++ [("valid", .boolean d.valid)])

/-- The tree of a configuration. -/
def Configuration.toData (c : Configuration) : Data :=
  .record [("marker", .text c.marker), ("name_argument", .text c.nameArgument),
    ("package", .text c.package), ("file_name", .text c.fileName),
    ("on_invalid_type", .text c.onGap.label)]

end Stubsmith
