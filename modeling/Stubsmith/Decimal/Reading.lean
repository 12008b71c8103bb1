/-!
# Reading decimals as binary floating-point numbers

`ofDecimal` rounds an exact decimal to the nearest binary number; `parse?` reads the text of a
number, with sign, fraction, exponent and the names of the special values.
-/

namespace Stubsmith.Decimal

/-- The natural number written by decimal digits. -/
def ofDigits (digits : List Char) : Nat :=
  digits.foldl (fun n c => 10 * n + (c.toNat - '0'.toNat)) 0

/-- The binary number nearest to `digits * 10 ^ exponent`. Exponents far outside the range of the
format are decided without computing the power of ten. -/
def ofDecimal (negative : Bool) (digits : Nat) (exponent : Int) : Float :=
  let size : Int := (Nat.toDigits 10 digits).length + exponent
  let magnitude :=
    if digits = 0 ∨ size < -400 then 0.0
    else if 400 < size then 1.0 / 0.0
    else if exponent < 0 then Float.ofScientific digits true (-exponent).toNat
    else Float.ofScientific digits false exponent.toNat
  if negative then -magnitude else magnitude

/-- A sign at the front, and the rest. -/
def takeSign : List Char → Bool × List Char
  | '-' :: rest => (true, rest)
  | '+' :: rest => (false, rest)
  | rest => (false, rest)

/-- An exponent mark with its exponent, which must take up all that is left. -/
def exponentPart? : List Char → Option Int
  | [] => some 0
  | c :: rest =>
    let (negative, digits) := takeSign rest
    if (c = 'e' ∨ c = 'E') ∧ !digits.isEmpty ∧ digits.all Char.isDigit then
      some (if negative then -(ofDigits digits : Int) else ofDigits digits)
    else none

/-- Digits with at most one point among them, then an exponent; there is at least one digit. -/
def decimalPart? (negative : Bool) (text : List Char) : Option Float :=
  let whole := text.takeWhile Char.isDigit
  let afterWhole := text.dropWhile Char.isDigit
  let (fraction, rest) :=
    match afterWhole with
    | '.' :: r => (r.takeWhile Char.isDigit, r.dropWhile Char.isDigit)
    | r => ([], r)
  if whole.isEmpty ∧ fraction.isEmpty then none
  else (exponentPart? rest).map fun exponent =>
    ofDecimal negative (ofDigits (whole ++ fraction)) (exponent - fraction.length)

/-- Reads the text of a number, rounding to nearest. Infinity and NaN are known by name, in any case
of letters. -/
def parse? (text : String) : Option Float :=
  let (negative, body) := takeSign text.toList
  let name := String.ofList (body.map Char.toLower)
  if name = "inf" ∨ name = "infinity" then
    some (if negative then -(1.0 / 0.0) else 1.0 / 0.0)
  else if name = "nan" then
    some (0.0 / 0.0)
  else decimalPart? negative body

end Stubsmith.Decimal
