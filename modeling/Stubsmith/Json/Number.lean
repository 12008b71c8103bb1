import Stubsmith.Data.Basic
import Stubsmith.Data.Word
import Stubsmith.Decimal.Binary64
import Stubsmith.Decimal.Reading

/-!
# Numbers in JSON

A number without fraction and exponent is an integer as long as it fits a word of 64 bits, signed or
unsigned; `-0` and everything larger is a floating-point number. The digits of a floating-point
number are first collected into an unsigned word, as many as fit, and the rest only counts as powers
of ten; the word is rounded to binary and then multiplied or divided by one power of ten. So a
number of many digits may come out one unit beside the nearest.
-/

namespace Stubsmith.Json

/-- Appends digits to an unsigned word as long as the result fits. Returns the word, how many digits
were taken and the digits that were not. -/
def collectDigits : Nat → Nat → List Char → Nat × Nat × List Char
  | word, count, [] => (word, count, [])
  | word, count, c :: rest =>
    let next := 10 * word + (c.toNat - '0'.toNat)
    if Word.fitsUnsigned next then collectDigits next (count + 1) rest else (word, count, c :: rest)

/-- A power of ten as a floating-point number; exact up to the twenty-second. -/
def powerOfTen (exponent : Nat) : Float :=
  Float.ofScientific 1 false exponent

/-- `x * 10 ^ exponent`, by one multiplication or division for exponents up to 308. Smaller
exponents take further divisions; a number too large for the format is refused. -/
def scale? : Nat → Float → Int → Option Float
  | 0, x, _ => some x
  | fuel + 1, x, exponent =>
    if exponent.natAbs ≤ 308 then
      if 0 ≤ exponent then
        let y := x * powerOfTen exponent.toNat
        if Decimal.isFinite y then some y else none
      else some (x / powerOfTen (-exponent).toNat)
    else if x == 0.0 then some x
    else if 0 ≤ exponent then none
    else scale? fuel (x / powerOfTen 308) (exponent + 308)

/-- The floating-point number with the given digits before and after the point, times a power of
ten. -/
def floatOfDigits? (negative : Bool) (whole fraction : List Char) (exponent : Int) : Option Data :=
  let (word, _, beyond) := collectDigits 0 0 whole
  let (word, places, _) := collectDigits word 0 fraction
  let total : Int := exponent + beyond.length - places
  (scale? (total.natAbs / 308 + 2) (UInt64.ofNat word).toFloat total).map fun x =>
    .float (if negative then -x else x)

/-- The number with the given digits and no fraction and exponent. -/
def integerOfDigits? (negative : Bool) (whole : List Char) : Option Data :=
  let n : Int := Decimal.ofDigits whole
  if negative ∧ 0 < n ∧ Word.fitsSigned (-n) then some (.integer (-n))
  else if !negative ∧ Word.fitsUnsigned n then some (.integer n)
  else floatOfDigits? negative whole [] 0

/-- Reads a number; the first character has been seen to be a digit or a minus sign. -/
def readNumber? (text : List Char) : Option (Data × List Char) := do
  let (negative, text) :=
    match text with
    | '-' :: rest => (true, rest)
    | rest => (false, rest)
  let whole := text.takeWhile Char.isDigit
  let text := text.dropWhile Char.isDigit
  if whole.isEmpty ∨ (whole.head? = some '0' ∧ whole.length > 1) then none
  let (fraction, text) ←
    match text with
    | '.' :: rest =>
      let digits := rest.takeWhile Char.isDigit
      if digits.isEmpty then none else some (digits, rest.dropWhile Char.isDigit)
    | rest => some ([], rest)
  let (exponent, text) ←
    match text with
    | c :: rest =>
      if c = 'e' ∨ c = 'E' then
        let (negative, rest) := Decimal.takeSign rest
        let digits := rest.takeWhile Char.isDigit
        if digits.isEmpty then none
        else
          let n : Int := Decimal.ofDigits digits
          some (some (if negative then -n else n), rest.dropWhile Char.isDigit)
      else some (none, text)
    | [] => some (none, [])
  let number ←
    match exponent, fraction with
    | none, [] => integerOfDigits? negative whole
    | exponent, fraction => floatOfDigits? negative whole fraction (exponent.getD 0)
  return (number, text)

end Stubsmith.Json
