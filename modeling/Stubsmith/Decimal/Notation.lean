import Stubsmith.Decimal.Shortest

/-!
# Writing binary floating-point numbers

The digits come from `Magnitude.shortest`; a `FloatStyle` decides how they are laid out. `plain`
writes every number positionally, the other two are the styles that error messages use.
-/

namespace Stubsmith.Decimal

/-- How the digits of a number are laid out. -/
structure FloatStyle where
  /-- Where the point may stand relative to the first digit for positional notation, from above the
  first number to the second; `none` if positional notation is always used. -/
  pointWithin : Option (Int × Int)
  /-- Whether a whole number is followed by `.0`. -/
  marksWhole : Bool
  tie : Tie

/-- Positional at any size, and a whole number has no point. -/
def FloatStyle.plain : FloatStyle :=
  ⟨none, false, .up⟩

/-- Positional at any size, and a whole number ends in `.0`. -/
def FloatStyle.marked : FloatStyle :=
  ⟨none, true, .up⟩

/-- Positional from `0.00001` up to sixteen places before the point, otherwise with an exponent. -/
def FloatStyle.scientific : FloatStyle :=
  ⟨some (-5, 16), true, .toEven⟩

/-- A decimal in positional notation. -/
def Scaled.positional (s : Scaled) (marksWhole : Bool) : String :=
  let digits := Nat.toDigits 10 s.digits
  let point : Int := digits.length + s.exponent
  if 0 ≤ s.exponent then
    String.ofList (digits ++ List.replicate s.exponent.toNat '0')
      ++ (if marksWhole then ".0" else "")
  else if 0 < point then
    String.ofList (digits.take point.toNat ++ '.' :: digits.drop point.toNat)
  else
    "0." ++ String.ofList (List.replicate (-point).toNat '0' ++ digits)

/-- A decimal with one digit before the point and an exponent. -/
def Scaled.exponential (s : Scaled) : String :=
  let digits := Nat.toDigits 10 s.digits
  let exponent : Int := digits.length + s.exponent - 1
  let mantissa :=
    match digits with
    | first :: rest@(_ :: _) => first :: '.' :: rest
    | single => single
  String.ofList mantissa ++ "e" ++ toString exponent

/-- The text of a positive magnitude. -/
def FloatStyle.magnitudeText (style : FloatStyle) (x : Magnitude) : String :=
  if x.significand = 0 then
    if style.marksWhole then "0.0" else "0"
  else
    let s := x.shortest style.tie
    let point : Int := (Nat.toDigits 10 s.digits).length + s.exponent
    match style.pointWithin with
    | none => s.positional style.marksWhole
    | some (low, high) =>
      if low < point ∧ point ≤ high then s.positional style.marksWhole else s.exponential

/-- The text of a number. NaN has no sign. -/
def FloatStyle.format (style : FloatStyle) (x : Float) : String :=
  match Binary64.ofFloat x with
  | .nan => "NaN"
  | .infinite negative => if negative then "-inf" else "inf"
  | .finite negative magnitude =>
    (if negative then "-" else "") ++ style.magnitudeText magnitude

end Stubsmith.Decimal
