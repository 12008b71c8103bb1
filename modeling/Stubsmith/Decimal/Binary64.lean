/-!
# Binary floating-point numbers as integers

A finite number of the 64-bit binary format is `m * 2 ^ q` for a natural `m` below `2 ^ 53`. Here
its bits are taken apart into sign, `m` and `q`, so that all further arithmetic on it is exact.
-/

namespace Stubsmith.Decimal

/-- The magnitude `significand * 2 ^ exponent` of a finite number. -/
structure Magnitude where
  significand : Nat
  exponent : Int
  deriving DecidableEq, Repr

/-- What a bit pattern of the format stands for. -/
inductive Binary64 where
  | nan
  | infinite (negative : Bool)
  | finite (negative : Bool) (magnitude : Magnitude)
  deriving DecidableEq, Repr

/-- The weight of the bit above the fifty-two bits of fraction, `2 ^ 52`. -/
def leadingBit : Nat :=
  0x10000000000000

/-- The number of exponent fields, `2 ^ 11`. -/
def exponentFields : Nat :=
  2048

/-- Takes a bit pattern apart: one bit of sign, eleven of exponent and fifty-two of fraction. The
least exponent field marks numbers without the hidden leading bit, the greatest one infinities and
NaN. -/
def Binary64.ofBits (bits : UInt64) : Binary64 :=
  let b := bits.toNat
  let negative : Bool := b / (leadingBit * exponentFields) = 1
  let field : Nat := b / leadingBit % exponentFields
  let fraction : Nat := b % leadingBit
  if field = 2047 then
    if fraction = 0 then .infinite negative else .nan
  else if field = 0 then
    .finite negative ⟨fraction, -1074⟩
  else
    .finite negative ⟨leadingBit + fraction, (field : Int) - 1075⟩

/-- Takes a number apart. -/
def Binary64.ofFloat (x : Float) : Binary64 :=
  .ofBits x.toBits

/-- Whether the number is neither an infinity nor NaN. -/
def isFinite (x : Float) : Bool :=
  match Binary64.ofFloat x with
  | .finite _ _ => true
  | _ => false

end Stubsmith.Decimal
