import Stubsmith.Model.Annotation
import Stubsmith.Model.TypeRef

/-!
# Declarations

A declaration of a class or object with its annotations and properties, as some earlier resolution
saw it. Declarations and properties carry a mark that says whether that resolution found them valid.
-/

namespace Stubsmith

/-- The form of a declaration. -/
inductive DeclarationKind where
  | classKind
  | interfaceKind
  | objectKind
  | enumClass
  | enumEntry
  | annotationClass
  deriving DecidableEq, Repr

namespace DeclarationKind

/-- The word for the kind. -/
def label : DeclarationKind → String
  | classKind => "class"
  | interfaceKind => "interface"
  | objectKind => "object"
  | enumClass => "enum_class"
  | enumEntry => "enum_entry"
  | annotationClass => "annotation_class"

/-- Whether there is exactly one instance, made by the declaration itself. -/
def isObject (kind : DeclarationKind) : Bool :=
  kind == objectKind

end DeclarationKind

/-- A named property. -/
structure Property where
  name : String
  type : TypeRef
  valid : Bool := true

/-- A declaration with its annotations and properties in source order. -/
structure Declaration where
  name : String
  kind : DeclarationKind
  annotations : List Annotation := []
  properties : List Property := []
  valid : Bool := true

namespace Property

/-- Same name, type and mark. -/
def alike (a b : Property) : Bool :=
  a.name == b.name && a.type == b.type && a.valid == b.valid

instance : BEq Property := ⟨alike⟩

/-- A valid property of that type. -/
def bare (name : String) (type : TypeRef) : Property :=
  { name, type }

/-- The property with its mark set. -/
def withMark (p : Property) (valid : Bool) : Property :=
  { p with valid }

end Property

namespace Declaration

/-- A valid declaration without annotations or properties. -/
def bare (name : String) (kind : DeclarationKind) : Declaration :=
  { name, kind }

/-- The declaration with one more annotation. -/
def annotatedWith (d : Declaration) (a : Annotation) : Declaration :=
  { d with annotations := d.annotations ++ [a] }

/-- The declaration with one more property. -/
def withProperty (d : Declaration) (p : Property) : Declaration :=
  { d with properties := d.properties ++ [p] }

/-- The declaration with its mark set. -/
def withMark (d : Declaration) (valid : Bool) : Declaration :=
  { d with valid }

/-- The last piece of the qualified name. -/
def simpleName (d : Declaration) : String :=
  Kotlin.simpleName d.name

/-- Whether an annotation of that qualified name is present. -/
def isAnnotatedWith (d : Declaration) (qualified : String) : Bool :=
  d.annotations.any (·.name == qualified)

/-- The first annotation of that simple name. -/
def findBySimpleName? (d : Declaration) (simple : String) : Option Annotation :=
  d.annotations.find? (·.simpleName == simple)

/-- The properties that become parameters of the function: those marked valid, in order. -/
def parameters (d : Declaration) : List Property :=
  d.properties.filter (·.valid)

/-- Equal in all parts, arguments of annotations in whatever order. -/
def alike (a b : Declaration) : Bool :=
  a.name == b.name && a.kind == b.kind && a.annotations == b.annotations
    && a.properties == b.properties && a.valid == b.valid

instance : BEq Declaration := ⟨alike⟩

end Declaration

/-- The declarations of a corpus that carry the annotation of that qualified name, in order. -/
def selection (corpus : List Declaration) (marker : String) : List Declaration :=
  corpus.filter (·.isAnnotatedWith marker)

end Stubsmith
