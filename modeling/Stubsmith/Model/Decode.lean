import Stubsmith.Data.Decode
import Stubsmith.Data.Word
import Stubsmith.Model.Configuration
import Stubsmith.Model.Declaration

/-!
# Reading the model from data trees

For every type of the model a function `ofData` that reads it from a tree. Unknown fields of a
record are passed over, except in the configuration, where they are a fault.
-/

namespace Stubsmith

open Data

/-! ## Types -/

/-- The words for the variances, in the order in which messages list them. -/
def Variance.words : List String :=
  ["invariant", "covariant", "out", "contravariant", "in", "*", "star"]

/-- The variance of a word; most have a second word. -/
def Variance.ofWord? : String → Option Variance
  | "invariant" => some invariant
  | "out" => some covariant
  | "covariant" => some covariant
  | "in" => some contravariant
  | "contravariant" => some contravariant
  | "star" => some star
  | "*" => some star
  | _ => none

/-- A variance, by its word. -/
def Variance.ofData (format : DataFormat) : Data → Except DataFault Variance :=
  toChoice format words ofWord?

/-- What has been read of a type reference. -/
structure TypeRef.Slots where
  name : Option String := none
  nullable : Bool := false
  arguments : List TypeArgument := []

/-- What has been read of a generic argument. -/
structure TypeArgument.Slots where
  variance : Variance := .invariant
  type : Option TypeRef := none

mutual

/-- A type reference. -/
def TypeRef.ofData (format : DataFormat) : Data → Except DataFault TypeRef
  | .record fields => do
    let slots ← TypeRef.readSlots format {} fields
    return ⟨slots.name, slots.nullable, slots.arguments⟩
  | .list items => do
    let name ← itemOr none items 0 toOptionalText
    let nullable ← itemOr false items 1 toBoolean
    let arguments ← match items with
      | _ :: _ :: d :: _ => TypeRef.argumentsOfData format d
      | _ => .ok []
    checkLength format 3 items
    return ⟨name, nullable, arguments⟩
  | .moment _ => .ok {}
  | d => .error (.mismatch d.found (.shape "TypeRef"))

/-- The fields of a type reference. -/
def TypeRef.readSlots (format : DataFormat) (slots : TypeRef.Slots) :
    List (String × Data) → Except DataFault TypeRef.Slots
  | [] => .ok slots
  | (key, d) :: rest =>
    if key = "name" then do
      let name ← toOptionalText d
      TypeRef.readSlots format { slots with name } rest
    else if key = "nullable" then do
      let nullable ← toBoolean d
      TypeRef.readSlots format { slots with nullable } rest
    else if key = "arguments" then do
      let arguments ← TypeRef.argumentsOfData format d
      TypeRef.readSlots format { slots with arguments } rest
    else TypeRef.readSlots format slots rest

/-- The generic arguments of a type reference. -/
def TypeRef.argumentsOfData (format : DataFormat) : Data → Except DataFault (List TypeArgument)
  | .list items => TypeRef.readArguments format items
  | d => .error (.mismatch d.found .list)

/-- The generic arguments in a list of trees. -/
def TypeRef.readArguments (format : DataFormat) : List Data → Except DataFault (List TypeArgument)
  | [] => .ok []
  | d :: rest => do
    let argument ← TypeArgument.ofData format d
    let others ← TypeRef.readArguments format rest
    return argument :: others

/-- A generic argument. -/
def TypeArgument.ofData (format : DataFormat) : Data → Except DataFault TypeArgument
  | .record fields => do
    let slots ← TypeArgument.readSlots format {} fields
    return ⟨slots.variance, slots.type⟩
  | .list items => do
    let variance ← itemOr .invariant items 0 (Variance.ofData format)
    let type ← match items with
      | _ :: d :: _ => if d.isNull then .ok none else (TypeRef.ofData format d).map some
      | _ => .ok none
    checkLength format 2 items
    return ⟨variance, type⟩
  | .moment _ => .ok {}
  | d => .error (.mismatch d.found (.shape "TypeArgument"))

/-- The fields of a generic argument. -/
def TypeArgument.readSlots (format : DataFormat) (slots : TypeArgument.Slots) :
    List (String × Data) → Except DataFault TypeArgument.Slots
  | [] => .ok slots
  | (key, d) :: rest =>
    if key = "variance" then do
      let variance ← Variance.ofData format d
      TypeArgument.readSlots format { slots with variance } rest
    else if key = "type" then do
      let type ← if d.isNull then .ok none else (TypeRef.ofData format d).map some
      TypeArgument.readSlots format { slots with type } rest
    else TypeArgument.readSlots format slots rest

end

/-! ## Annotations -/

/-- A constant. Whole numbers beyond the signed words become floating-point numbers as long as they
fit an unsigned word. -/
def Constant.ofData : Data → Except DataFault Constant
  | .boolean b => .ok (.boolean b)
  | .integer i =>
    if Word.fitsSigned i then .ok (.integer (Int64.ofInt i))
    else if Word.fitsUnsigned i then .ok (.float (UInt64.ofNat i.toNat).toFloat)
    else .error (.outOfRange i)
  | .float x => .ok (.float x)
  | .text s => .ok (.text s)
  | _ => .error .notAConstant

/-- The named constants in the fields of a record. -/
def Annotation.readArguments :
    List (String × Data) → Except DataFault (List (String × Constant))
  | [] => .ok []
  | (key, d) :: rest => do
    let value ← Constant.ofData d
    let others ← Annotation.readArguments rest
    return (key, value) :: others

/-- The arguments of an annotation, in reading order. -/
def Annotation.argumentsOfData : Data → Except DataFault (OrderedMap Constant)
  | .record fields => return .ofList (← Annotation.readArguments fields)
  | .moment value => .ok (.ofList [(momentKey, .text value)])
  | d => .error (.mismatch d.found .map)

/-- What has been read of an annotation. -/
structure Annotation.Slots where
  name : Option String := none
  arguments : OrderedMap Constant := .empty

/-- Reads one field of an annotation. -/
def Annotation.readSlot (slots : Annotation.Slots) (key : String) (d : Data) :
    Except DataFault Annotation.Slots :=
  if key = "name" then return { slots with name := some (← toText d) }
  else if key = "arguments" then return { slots with arguments := ← Annotation.argumentsOfData d }
  else .ok slots

/-- An annotation. -/
def Annotation.ofData (format : DataFormat) : Data → Except DataFault Annotation :=
  toShape format "Annotation" 2
    (fun fields => do
      let slots ← readFields Annotation.readSlot {} fields
      return { name := ← required "name" slots.name, arguments := slots.arguments })
    (fun items => do
      let name ← itemAt "Annotation" 2 items 0 toText
      let arguments ← itemOr .empty items 1 Annotation.argumentsOfData
      return { name, arguments })

/-! ## Declarations -/

/-- The words for the kinds of declaration. -/
def DeclarationKind.words : List String :=
  ["class", "interface", "object", "enum_class", "enum_entry", "annotation_class"]

/-- The kind of a word. -/
def DeclarationKind.ofWord? : String → Option DeclarationKind
  | "class" => some classKind
  | "interface" => some interfaceKind
  | "object" => some objectKind
  | "enum_class" => some enumClass
  | "enum_entry" => some enumEntry
  | "annotation_class" => some annotationClass
  | _ => none

/-- A kind of declaration, by its word. -/
def DeclarationKind.ofData (format : DataFormat) : Data → Except DataFault DeclarationKind :=
  toChoice format words ofWord?

/-- What has been read of a property. -/
structure Property.Slots where
  name : Option String := none
  type : Option TypeRef := none
  valid : Bool := true

/-- Reads one field of a property. -/
def Property.readSlot (format : DataFormat) (slots : Property.Slots) (key : String) (d : Data) :
    Except DataFault Property.Slots :=
  if key = "name" then return { slots with name := some (← toText d) }
  else if key = "type" then return { slots with type := some (← TypeRef.ofData format d) }
  else if key = "valid" then return { slots with valid := ← toBoolean d }
  else .ok slots

/-- A property. -/
def Property.ofData (format : DataFormat) : Data → Except DataFault Property :=
  toShape format "Property" 3
    (fun fields => do
      let slots ← readFields (Property.readSlot format) {} fields
      let name ← required "name" slots.name
      let type ← required "type" slots.type
      return { name, type, valid := slots.valid })
    (fun items => do
      let name ← itemAt "Property" 3 items 0 toText
      let type ← itemAt "Property" 3 items 1 (TypeRef.ofData format)
      let valid ← itemOr true items 2 toBoolean
      return { name, type, valid })

/-- What has been read of a declaration. -/
structure Declaration.Slots where
  name : Option String := none
  kind : Option DeclarationKind := none
  annotations : List Annotation := []
  properties : List Property := []
  valid : Bool := true

/-- Reads one field of a declaration. -/
def Declaration.readSlot (format : DataFormat) (slots : Declaration.Slots) (key : String)
    (d : Data) : Except DataFault Declaration.Slots :=
  if key = "name" then return { slots with name := some (← toText d) }
  else if key = "kind" then return { slots with kind := some (← DeclarationKind.ofData format d) }
  else if key = "annotations" then
    return { slots with annotations := ← toListOf (fun a => Annotation.ofData format a) d }
  else if key = "properties" then
    return { slots with properties := ← toListOf (Property.ofData format) d }
  else if key = "valid" then return { slots with valid := ← toBoolean d }
  else .ok slots

/-- A declaration. -/
def Declaration.ofData (format : DataFormat) : Data → Except DataFault Declaration :=
  toShape format "Declaration" 5
    (fun fields => do
      let slots ← readFields (Declaration.readSlot format) {} fields
      let name ← required "name" slots.name
      let kind ← required "kind" slots.kind
      return { slots with name, kind })
    (fun items => do
      let name ← itemAt "Declaration" 5 items 0 toText
      let kind ← itemAt "Declaration" 5 items 1 (DeclarationKind.ofData format)
      let annotations ← itemOr [] items 2 (toListOf fun a => Annotation.ofData format a)
      let properties ← itemOr [] items 3 (toListOf (Property.ofData format))
      let valid ← itemOr true items 4 toBoolean
      return { name, kind, annotations, properties, valid })

/-! ## Configuration -/

/-- The words for the policies. -/
def GapPolicy.words : List String :=
  ["discard", "keep-partial"]

/-- The policy of a word, in its one spelling. -/
def GapPolicy.ofWord? : String → Option GapPolicy
  | "discard" => some discard
  | "keep-partial" => some keepPartial
  | _ => none

/-- A policy, by its word. -/
def GapPolicy.ofData (format : DataFormat) : Data → Except DataFault GapPolicy :=
  toChoice format words ofWord?

/-- The fields of a configuration. -/
def Configuration.fieldNames : List String :=
  ["marker", "name_argument", "package", "file_name", "on_invalid_type"]

/-- Reads one field of a configuration. -/
def Configuration.readSlot (format : DataFormat) (c : Configuration) (key : String) (d : Data) :
    Except DataFault Configuration :=
  if key = "marker" then return { c with marker := ← toText d }
  else if key = "name_argument" then return { c with nameArgument := ← toText d }
  else if key = "package" then return { c with package := ← toText d }
  else if key = "file_name" then return { c with fileName := ← toText d }
  else if key = "on_invalid_type" then return { c with onGap := ← GapPolicy.ofData format d }
  else .error (.unknownField key Configuration.fieldNames)

/-- A configuration; what is missing has its default. -/
def Configuration.ofData (format : DataFormat) : Data → Except DataFault Configuration :=
  toShape format "ProcessorConfig" 5
    (readFields (Configuration.readSlot format) {})
    (fun items => do
      let default : Configuration := {}
      let marker ← itemOr default.marker items 0 toText
      let nameArgument ← itemOr default.nameArgument items 1 toText
      let package ← itemOr default.package items 2 toText
      let fileName ← itemOr default.fileName items 3 toText
      let onGap ← itemOr default.onGap items 4 (GapPolicy.ofData format)
      return { marker, nameArgument, package, fileName, onGap })

end Stubsmith
