import Stubsmith.Kotlin.TypeText
import Stubsmith.Model.Configuration

/-!
# Declarations as functions

The function of a declaration takes the declaration's valid properties as parameters and prints its
own name. `Draft.writeFunction` writes it. A declaration that is no object, or whose marker does not
name the function, leaves the draft as it was. What a gap in a type does depends on the policy:
under `discard` writing stops there, and what was written before stays in the draft; under
`keepPartial` the gap is left out and the rest of the function follows.
-/

namespace Stubsmith

open Kotlin

namespace Kotlin

/-- A function that has been written, with the gaps that were left out of it. -/
structure WrittenFunction where
  name : String
  faults : List RenderFault := []
  deriving DecidableEq, Repr

/-- Whether the function was written without gaps. -/
def WrittenFunction.isClean (f : WrittenFunction) : Bool :=
  f.faults.isEmpty

/-- Only objects become functions. -/
def checkKind (c : Configuration) (decl : Declaration) : Except RenderFault Unit :=
  if decl.kind.isObject then .ok ()
  else .error (.wrongKind decl.name decl.kind c.markerSimpleName)

/-- The name of the function: the text of the name argument, taken from the first annotation that
has the simple name of the marker. -/
def functionName (c : Configuration) (decl : Declaration) : Except RenderFault String :=
  let marker := c.markerSimpleName
  match (decl.findBySimpleName? marker).bind (·.get? c.nameArgument) with
  | none => .error (.missingName decl.name marker c.nameArgument)
  | some value =>
    match value.text? with
    | some name => .ok name
    | none => .error (.nameNotText decl.name marker c.nameArgument value.kindName)

end Kotlin

namespace Draft

/-- Writes one parameter a line. Under `discard` the first gap ends the writing; under `keepPartial`
the faults of all parameters are returned, and a parameter without any type also loses its comma and
line end. -/
def writeParameters (policy : GapPolicy) (owner : String) (d : Draft) :
    List Property → Draft × Except RenderFault (List RenderFault)
  | [] => (d, .ok [])
  | p :: rest =>
    let symbol := owner ++ "." ++ p.name
    let d := d.beginLine (p.name ++ ": ")
    match policy with
    | .discard =>
      match d.writeType p.type symbol with
      | (d, some fault) => (d, .error fault)
      | (d, none) => (d.finishLine ",").writeParameters policy owner rest
    | .keepPartial =>
      let (d, faults) := d.writeTypeAround p.type symbol
      let d := if p.type.isResolved then d.finishLine "," else d
      match d.writeParameters policy owner rest with
      | (d, .ok others) => (d, .ok (faults ++ others))
      | (d, .error fault) => (d, .error fault)

/-- Writes the body of a function and closes it. -/
def writeBody (d : Draft) (name : String) : Draft :=
  let d := d.indent.line ("println(\"Hallo aus Funktion -> " ++ name ++ "\")")
  d.dedent.line "\x7d"

/-- Writes a function with the given name and parameters. -/
def writeNamed (policy : GapPolicy) (owner name : String) (parameters : List Property) (d : Draft) :
    Draft × Except RenderFault WrittenFunction :=
  if parameters.isEmpty then
    let d := d.line ("fun " ++ name ++ "() \x7b")
    (d.writeBody name, .ok { name })
  else
    let d := (d.line ("fun " ++ name ++ "(")).indent
    match d.writeParameters policy owner parameters with
    | (d, .error fault) => (d, .error fault)
    | (d, .ok faults) =>
      let d := d.dedent.line ") \x7b"
      (d.writeBody name, .ok { name, faults })

/-- Writes the function of a declaration. -/
def writeFunction (c : Configuration) (decl : Declaration) (d : Draft) :
    Draft × Except RenderFault WrittenFunction :=
  match checkKind c decl with
  | .error fault => (d, .error fault)
  | .ok _ =>
    match functionName c decl with
    | .error fault => (d, .error fault)
    | .ok name => d.writeNamed c.onGap decl.name name decl.parameters

end Draft

end Stubsmith
