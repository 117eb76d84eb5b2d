import DebugConsole.Number.Decimal

/-!
# The shortest decimal number that reads back

A finite single-precision number is shown by the fewest decimal digits that read back as the same number, and by the nearest such
digits to it. The candidates with digits down to a power of ten are the two neighbours of the number among the multiples of that
power.
-/

namespace DebugConsole

namespace Single

/-- The decimal number that equals a finite number. -/
def exact (x : Single) : Decimal :=
  ⟨x.isNegative, (x.significand <<< x.scale) * Nat.pow 5 149, -149⟩

/-- The two neighbours of a finite number among the multiples of `10 ^ k`, the nearer one first, the greater of two equally near
ones. -/
def neighbours (x : Single) (k : Int) : List Decimal :=
  let num := (x.significand <<< x.scale) * Nat.pow 10 (-k).toNat
  let den := (Nat.pow 10 k.toNat) <<< 149
  let below : Decimal := ⟨x.isNegative, num / den, k⟩
  let above : Decimal := ⟨x.isNegative, num / den + 1, k⟩
  if den ≤ 2 * (num % den) then [above, below] else [below, above]

/-- The powers of ten down to which digits are looked for: from above the greatest finite number to nine digits below the least
positive one. -/
def gridExponents : List Int :=
  (List.range 94).map fun (i : Nat) => (39 : Int) - i

/-- The shortest decimal number that reads back as a finite number. -/
def shortest (x : Single) : Decimal :=
  (gridExponents.findSome? fun k => (x.neighbours k).find? fun d => d.digits ≠ 0 && ofDecimal d == x).getD x.exact

end Single

/-- Where the digits of a number are written out around a point, by the power of ten of the first digit. Elsewhere the number is
written with an exponent. -/
structure NumeralStyle where
  positionalFrom : Int
  positionalTo : Int

namespace NumeralStyle

/-- The settings file writes out the numbers from a ten-thousandth to below ten to the sixteenth. -/
def settingsFile : NumeralStyle := ⟨-4, 15⟩

/-- The numeral of a decimal number that is not zero. -/
def digits (style : NumeralStyle) (d : Decimal) : List Char :=
  let ds := Nat.toDigits 10 d.digits
  let point : Int := ds.length + d.exponent
  if style.positionalFrom < point ∧ point ≤ style.positionalTo + 1 then
    if 0 ≤ d.exponent then ds ++ List.replicate d.exponent.toNat '0' ++ ['.', '0']
    else if 0 < point then ds.take point.toNat ++ '.' :: ds.drop point.toNat
    else '0' :: '.' :: List.replicate (-point).toNat '0' ++ ds
  else
    let fraction := if ds.length ≤ 1 then [] else '.' :: ds.drop 1
    let exponent := point - 1
    ds.take 1 ++ fraction ++ 'e' :: (if exponent < 0 then ['-'] else []) ++ Nat.toDigits 10 exponent.natAbs

/-- The numeral of a single-precision number: its shortest digits, or the word for infinity or for no number, after its sign. -/
def numeral (style : NumeralStyle) (x : Single) : List Char :=
  (if x.isNegative then ['-'] else []) ++
    if x.isNan then ['N', 'a', 'N']
    else if x.isInfinite then ['i', 'n', 'f']
    else if x.magnitude = 0 then ['0', '.', '0']
    else style.digits x.shortest

end NumeralStyle

end DebugConsole
