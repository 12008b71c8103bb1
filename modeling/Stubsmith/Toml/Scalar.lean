import Stubsmith.Data.Basic
import Stubsmith.Decimal.Binary64
import Stubsmith.Decimal.Reading
import Stubsmith.Text.Hex
import Stubsmith.Toml.Moment

/-!
# Scalars without quotes in TOML

Truth values, numbers, dates and times. A number that neither a signed nor an unsigned word of 128
bits holds is refused, and so is a decimal too large for a floating-point number.
-/

namespace Stubsmith.Toml

open Stubsmith.Decimal Stubsmith.Text

/-- Digits with single underscores between them; returns the digits alone. -/
def plainDigits? (isDigit : Char → Bool) : List Char → Option (List Char)
  | [] => none
  | [c] => if isDigit c then some [c] else none
  | c :: '_' :: rest => if isDigit c then (plainDigits? isDigit rest).map (c :: ·) else none
  | c :: rest => if isDigit c then (plainDigits? isDigit rest).map (c :: ·) else none

/-- Whether a whole number can be held: it fits a word of 128 bits, signed or unsigned. -/
def inReach (n : Int) : Bool :=
  -0x80000000000000000000000000000000 ≤ n && n < 0x100000000000000000000000000000000

/-- A whole number, if it can be held. -/
def integer? (n : Int) : Option Data :=
  if inReach n then some (.integer n) else none

/-- The number written by digits of a base up to sixteen. -/
def inBase? (base : Nat) (text : List Char) : Option Data := do
  let isDigit := fun c => (hexValue? c).any (· < base)
  let digits ← plainDigits? isDigit text
  let n := digits.foldl (fun n c => base * n + (hexValue? c).getD 0) 0
  integer? n

/-- The digits before the point: no zero at the front unless it stands alone. -/
def wholeDigits? (text : List Char) : Option (List Char) := do
  let digits ← plainDigits? Char.isDigit text
  if digits.head? = some '0' ∧ digits.length > 1 then none else some digits

/-- The exponent after its mark. -/
def exponent? (text : List Char) : Option Int := do
  let (negative, text) := takeSign text
  let digits ← plainDigits? Char.isDigit text
  return if negative then -(ofDigits digits : Int) else ofDigits digits

/-- A decimal number with a fraction, an exponent or both. -/
def float? (negative : Bool) (text : List Char) : Option Data := do
  let isMark := fun c => c = 'e' || c = 'E'
  let mantissa := text.takeWhile (!isMark ·)
  let exponent ←
    match text.dropWhile (!isMark ·) with
    | [] => some 0
    | _ :: rest => exponent? rest
  let whole ← wholeDigits? (mantissa.takeWhile (· ≠ '.'))
  let fraction ←
    match mantissa.dropWhile (· ≠ '.') with
    | [] => some []
    | _ :: rest => plainDigits? Char.isDigit rest
  let x := ofDecimal negative (ofDigits (whole ++ fraction)) (exponent - fraction.length)
  if isFinite x then some (.float x) else none

/-- A number, with or without a sign. -/
def number? (text : List Char) : Option Data :=
  match text with
  | '0' :: 'x' :: rest => inBase? 16 rest
  | '0' :: 'o' :: rest => inBase? 8 rest
  | '0' :: 'b' :: rest => inBase? 2 rest
  | _ =>
    let (negative, body) := takeSign text
    if body = ['i', 'n', 'f'] then some (.float (if negative then -(1.0 / 0.0) else 1.0 / 0.0))
    else if body = ['n', 'a', 'n'] then some (.float (0.0 / 0.0))
    else if body.any fun c => c = '.' || c = 'e' || c = 'E' then float? negative body
    else do
      let digits ← wholeDigits? body
      let n : Int := ofDigits digits
      integer? (if negative then -n else n)

/-- A scalar. -/
def scalar? (text : List Char) : Option Data :=
  if text = ['t', 'r', 'u', 'e'] then some (.boolean true)
  else if text = ['f', 'a', 'l', 's', 'e'] then some (.boolean false)
  else
    match readMoment? text with
    | some moment => some (.moment moment)
    | none => number? text

/-- Whether the character may stand in a scalar. -/
def isScalarChar (c : Char) : Bool :=
  c.isAlphanum || c = '+' || c = '-' || c = '_' || c = '.' || c = ':'

/-- Reads a scalar. A time may follow a date after one blank. -/
def readScalar? (text : List Char) : Option (Data × List Char) :=
  let word := text.takeWhile isScalarChar
  let rest := text.dropWhile isScalarChar
  let (word, rest) :=
    match (readDate? word).map (·.2), rest with
    | some [], ' ' :: c :: more =>
      if c.isDigit then
        (word ++ ' ' :: (c :: more).takeWhile isScalarChar, (c :: more).dropWhile isScalarChar)
      else (word, rest)
    | _, _ => (word, rest)
  (scalar? word).map (·, rest)

end Stubsmith.Toml
