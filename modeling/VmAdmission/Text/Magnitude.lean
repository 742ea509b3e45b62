/-!
# The range of binary floating point

A decimal number has a value in the 64-bit binary format only if it rounds to a finite one. The
bound lies half a unit above the greatest finite value, and a number on the bound is rounded up.
-/

namespace VmAdmission.Text

/-- The least number that rounds beyond the greatest finite 64-bit floating-point value. -/
def overflowBound : Nat := Nat.pow 2 1024 - Nat.pow 2 970

/-- Whether `significand · 10 ^ exponent` rounds beyond all finite values. The number of digits
decides, unless it leaves the number between two neighbouring powers of ten around the bound. -/
def overflows (significand : Nat) (exponent : Int) : Bool :=
  let magnitude := (Nat.toDigits 10 significand).length + exponent
  if significand = 0 ∨ magnitude < 309 then false
  else if magnitude > 309 then true
  else overflowBound * Nat.pow 10 (-exponent).toNat ≤ significand * Nat.pow 10 exponent.toNat

end VmAdmission.Text
