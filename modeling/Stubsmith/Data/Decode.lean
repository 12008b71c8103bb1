import Stubsmith.Data.Fault

/-!
# Decoding data trees

The parts that every decoder is made of: scalars, lists, choices between words, and shapes. A shape
is a structured value; it is written either as a record, whose fields may come in any order, or as a
list of its fields in their fixed order, from which fields with a default may be cut at the end.

The first fault in reading order is reported: fields of a record are read as they come, and only
then is the presence of the required ones checked.
-/

namespace Stubsmith.Data

/-- A text. -/
def toText : Data → Except DataFault String
  | text s => .ok s
  | d => .error (.mismatch d.found .text)

/-- A text, or nothing. -/
def toOptionalText : Data → Except DataFault (Option String)
  | null => .ok none
  | text s => .ok (some s)
  | d => .error (.mismatch d.found .text)

/-- A truth value. -/
def toBoolean : Data → Except DataFault Bool
  | boolean b => .ok b
  | d => .error (.mismatch d.found .boolean)

/-- Reads every item, up to the first fault. -/
def readAll {α : Type} (read : Data → Except DataFault α) : List Data → Except DataFault (List α)
  | [] => .ok []
  | d :: rest => do
    let a ← read d
    let others ← readAll read rest
    return a :: others

/-- A list whose items are all read alike. -/
def toListOf {α : Type} (read : Data → Except DataFault α) : Data → Except DataFault (List α)
  | list items => readAll read items
  | d => .error (.mismatch d.found .list)

/-- Nothing, as the companion of a word that stands as the key of a record. -/
def toNothing (format : DataFormat) (d : Data) : Except DataFault Unit :=
  match format with
  | .json =>
    match d with
    | null => .ok ()
    | d => .error (.mismatch d.found .nothing)
  | .toml =>
    match d with
    | list [] => .ok ()
    | list _ => .error .emptyListExpected
    | record [] => .ok ()
    | record _ => .error .emptyRecordExpected
    | d => .error (.recordExpected d.kindName)

/-- The value of a word. -/
def pickWord {α : Type} (known : List String) (pick : String → Option α) (word : String) :
    Except DataFault α :=
  match pick word with
  | some a => .ok a
  | none => .error (.unknownChoice word known)

/-- A choice between words: a text, or a record with the word as its only key. -/
def toChoice {α : Type} (format : DataFormat) (known : List String) (pick : String → Option α) :
    Data → Except DataFault α
  | text s => pickWord known pick s
  | record [(word, companion)] => do
    let a ← pickWord known pick word
    companion.toNothing format
    return a
  | record fields => .error (.notOneKey fields.length)
  | d =>
    match format with
    | .json => .error (.mismatch d.found .choice)
    | .toml => .error .choiceExpected

/-- The value of a required field. -/
def required {α : Type} (name : String) : Option α → Except DataFault α
  | some a => .ok a
  | none => .error (.missingField name)

/-- The item of a shape in list form at a position, where it must not be missing. -/
def itemAt {α : Type} (shape : String) (size : Nat) (items : List Data) (position : Nat)
    (read : Data → Except DataFault α) : Except DataFault α :=
  match items[position]? with
  | some d => read d
  | none => .error (.tooShort position shape size)

/-- The item of a shape in list form at a position, or its default. -/
def itemOr {α : Type} (default : α) (items : List Data) (position : Nat)
    (read : Data → Except DataFault α) : Except DataFault α :=
  match items[position]? with
  | some d => read d
  | none => .ok default

/-- Further items than the shape has fields are a fault in JSON and ignored in TOML. -/
def checkLength (format : DataFormat) (size : Nat) (items : List Data) : Except DataFault Unit :=
  if format = .json ∧ size < items.length then .error (.tooLong items.length) else .ok ()

/-- Reads the fields of a record one after another into `slots`. -/
def readFields {σ : Type} (read : σ → String → Data → Except DataFault σ) :
    σ → List (String × Data) → Except DataFault σ
  | slots, [] => .ok slots
  | slots, (key, d) :: rest => do
    let slots ← read slots key d
    readFields read slots rest

/-- A shape, from its record form or its list form. -/
def toShape {α : Type} (format : DataFormat) (name : String) (size : Nat)
    (ofFields : List (String × Data) → Except DataFault α)
    (ofItems : List Data → Except DataFault α) (d : Data) : Except DataFault α :=
  match d with
  | list items => do
    let a ← ofItems items
    checkLength format size items
    return a
  | record fields => ofFields fields
  | moment value => ofFields [(momentKey, text value)]
  | d => .error (.mismatch d.found (.shape name))

end Stubsmith.Data
