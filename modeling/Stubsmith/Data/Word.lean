/-!
# Words of 64 bits

Which whole numbers fit a machine word, signed or unsigned.
-/

namespace Stubsmith.Word

/-- The least whole number beyond the signed words, `2 ^ 63`. -/
def signedBound : Int :=
  0x8000000000000000

/-- The least whole number beyond the unsigned words, `2 ^ 64`. -/
def unsignedBound : Int :=
  0x10000000000000000

/-- Whether the number fits a signed word. -/
def fitsSigned (n : Int) : Bool :=
  -signedBound ≤ n && n < signedBound

/-- Whether the number fits an unsigned word. -/
def fitsUnsigned (n : Int) : Bool :=
  0 ≤ n && n < unsignedBound

theorem fitsSigned_iff (n : Int) :
    fitsSigned n = true ↔ -0x8000000000000000 ≤ n ∧ n < 0x8000000000000000 := by
  rw [fitsSigned, Bool.and_eq_true, decide_eq_true_eq, decide_eq_true_eq]
  rfl

theorem fitsUnsigned_iff (n : Int) :
    fitsUnsigned n = true ↔ 0 ≤ n ∧ n < 0x10000000000000000 := by
  rw [fitsUnsigned, Bool.and_eq_true, decide_eq_true_eq, decide_eq_true_eq]
  rfl

/-- What a signed word holds fits one. -/
theorem fitsSigned_toInt (i : Int64) : fitsSigned i.toInt = true := by
  have hlow := i.le_toInt
  have hhigh := i.toInt_lt
  rw [fitsSigned_iff]
  omega

end Stubsmith.Word
