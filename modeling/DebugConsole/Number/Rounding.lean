import DebugConsole.Number.Single

/-!
# Rounding to single precision

The single-precision number nearest to a ratio of whole numbers. Of two equally near ones it is the one with the even significand,
and a ratio too large for the format becomes infinite.
-/

namespace DebugConsole

/-- The whole number nearest to a ratio, the even one of two equally near. -/
def roundRatio (num den : Nat) : Nat :=
  let quotient := num / den
  let rest := num % den
  if den < 2 * rest ∨ (den = 2 * rest ∧ quotient % 2 = 1) then quotient + 1 else quotient

/-- The greatest power of two that is at most a positive ratio, as an exponent. -/
def ratioLog2 (num den : Nat) : Int :=
  let guess : Int := (Nat.log2 num : Int) - Nat.log2 den
  if den <<< guess.toNat ≤ num <<< (-guess).toNat then guess else guess - 1

namespace Single

/-- The magnitude nearest to a positive ratio. The significand gets 24 bits, fewer where that would pass the least exponent;
a significand rounded up to 25 bits carries into the exponent, which is the next magnitude. -/
def roundMagnitude (num den : Nat) : Nat :=
  let exponent : Int := max (-149) (ratioLog2 num den - 23)
  let significand := roundRatio (num <<< (-exponent).toNat) (den <<< exponent.toNat)
  min infinite ((exponent + 149).toNat * 0x800000 + significand)

/-- The number nearest to a ratio with the given sign. -/
def ofRatio (negative : Bool) (num den : Nat) : Single :=
  if num = 0 then ofMagnitude negative 0 else ofMagnitude negative (roundMagnitude num den)

example : ofRatio false 1 1 = one := by decide
example : (ofRatio false 1 10).bits = 0x3dcccccd := by decide
example : (ofRatio false (2 ^ 24 + 1) 1).bits = 0x4b800000 := by decide
example : ofRatio false (2 ^ 128) 1 = infinity := by decide
example : (ofRatio false 1 (2 ^ 149)).bits = 1 := by decide
example : (ofRatio true 1 (2 ^ 150)).bits = 0x80000000 := by decide

end Single

end DebugConsole
