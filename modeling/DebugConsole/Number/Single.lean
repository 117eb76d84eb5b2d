/-!
# Single-precision numbers

Sizes, positions and color components are binary floating-point numbers of 32 bits, kept as their bits: two numbers are the same
if all their bits are. A finite number is a whole number of 24 bits at most, its significand, times a power of two.
-/

namespace DebugConsole

/-- A single-precision number, by its bits: a sign, eight bits of exponent and 23 bits of fraction. -/
structure Single where
  bits : UInt32
deriving DecidableEq, Repr

namespace Single

instance : Inhabited Single := ⟨⟨0⟩⟩

/-- The number with the given sign and the given magnitude, which is its 31 other bits. -/
def ofMagnitude (negative : Bool) (magnitude : Nat) : Single :=
  ⟨UInt32.ofNat ((if negative then 0x80000000 else 0) + magnitude)⟩

/-- The 31 bits besides the sign: larger numbers have larger magnitudes. -/
def magnitude (x : Single) : Nat :=
  x.bits.toNat % 0x80000000

/-- The magnitude of infinity. Greater ones are not numbers. -/
def infinite : Nat := 0x7f800000

def zero : Single := ⟨0⟩

def one : Single := ofMagnitude false 0x3f800000

def infinity : Single := ofMagnitude false infinite

/-- The value that stands for no number. -/
def nan : Single := ofMagnitude false 0x7fc00000

def isNegative (x : Single) : Bool :=
  decide (0x80000000 ≤ x.bits.toNat)

def isNan (x : Single) : Bool :=
  decide (infinite < x.magnitude)

def isInfinite (x : Single) : Bool :=
  x.magnitude == infinite

/-- The same number with the other sign. -/
def neg (x : Single) : Single :=
  ofMagnitude (!x.isNegative) x.magnitude

/-- The significand of a finite number. -/
def significand (x : Single) : Nat :=
  if x.magnitude < 0x800000 then x.magnitude else 0x800000 + x.magnitude % 0x800000

/-- The power of two that the significand of a finite number is multiplied by is this less 149. -/
def scale (x : Single) : Nat :=
  x.magnitude / 0x800000 - 1

end Single

end DebugConsole
