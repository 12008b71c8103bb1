import Stubsmith.Model.Declaration

/-!
# Declarations put together from their parts

A declaration can be built from a bare one by adding one part after another. `rebuilt` does this
with the parts of a given declaration. The result may differ from it in two ways, because the
operations of building always leave a star argument without a type and give a type to every other
argument.
-/

namespace Stubsmith

mutual

/-- The reference built from its name, its mark and its arguments in order. -/
def TypeRef.rebuilt : TypeRef → TypeRef
  | ⟨name, nullable, arguments⟩ =>
    let start :=
      match name with
      | some n => TypeRef.named n
      | none => TypeRef.unresolved
    (TypeRef.rebuiltArguments arguments).foldl TypeRef.withArgument
      (if nullable then start.asNullable else start)

/-- The arguments, each built from its parts. -/
def TypeRef.rebuiltArguments : List (Projection TypeRef) → List TypeArgument
  | [] => []
  | a :: rest => TypeRef.rebuiltArgument a :: TypeRef.rebuiltArguments rest

/-- The argument built from its variance and its type. -/
def TypeRef.rebuiltArgument : Projection TypeRef → TypeArgument
  | ⟨.invariant, type⟩ => TypeArgument.invariant (TypeRef.rebuiltType type)
  | ⟨.covariant, type⟩ => TypeArgument.covariant (TypeRef.rebuiltType type)
  | ⟨.contravariant, type⟩ => TypeArgument.contravariant (TypeRef.rebuiltType type)
  | ⟨.star, _⟩ => TypeArgument.star

/-- The type of an argument, an unresolved one if there is none. -/
def TypeRef.rebuiltType : Option TypeRef → TypeRef
  | some t => TypeRef.rebuilt t
  | none => TypeRef.unresolved

end

/-- The annotation built from its name and its arguments in order. -/
def Annotation.rebuilt (a : Annotation) : Annotation :=
  a.arguments.entries.foldl (fun b entry => b.withArgument entry.1 entry.2) (.bare a.name)

/-- The property built from its name, its type and its mark. -/
def Property.rebuilt (p : Property) : Property :=
  (Property.bare p.name p.type.rebuilt).withMark p.valid

/-- The declaration built from its name, its kind, its annotations, its properties and its mark. -/
def Declaration.rebuilt (d : Declaration) : Declaration :=
  let bare := Declaration.bare d.name d.kind
  let annotated := d.annotations.foldl (fun b a => b.annotatedWith a.rebuilt) bare
  let complete := d.properties.foldl (fun b p => b.withProperty p.rebuilt) annotated
  complete.withMark d.valid

end Stubsmith
