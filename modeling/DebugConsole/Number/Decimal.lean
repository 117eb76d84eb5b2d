import DebugConsole.Number.Rounding

/-!
# Decimal numerals

A decimal number is a whole number of digits times a power of ten, with a sign. Here are the numerals that are read as one, and
the single-precision number nearest to one.
-/

namespace DebugConsole

/-- The number `digits * 10 ^ exponent`, with a sign of its own so that there are two zeros. -/
structure Decimal where
  negative : Bool
  digits : Nat
  exponent : Int
deriving DecidableEq, Repr

namespace Decimal

/-- The number that a row of digits stands for. -/
def ofDigits (ds : List Char) : Nat :=
  ds.foldl (fun n d => 10 * n + (d.toNat - '0'.toNat)) 0

/-- A sign, plus if none is written, and what follows it. -/
def readSign : List Char → Bool × List Char
  | '-' :: rest => (true, rest)
  | '+' :: rest => (false, rest)
  | rest => (false, rest)

/-- The exponent that ends a numeral: nothing, or a letter `e`, an optional sign and at least one digit. -/
def readExponent? : List Char → Option Int
  | [] => some 0
  | mark :: rest =>
    let (negative, ds) := readSign rest
    if (mark = 'e' ∨ mark = 'E') ∧ ds ≠ [] ∧ ds.all Char.isDigit then
      some (if negative then -(ofDigits ds : Int) else ofDigits ds)
    else none

/-- The digits after the point, if there is one, and what follows them. -/
def readFraction : List Char → List Char × List Char
  | '.' :: rest => (rest.takeWhile Char.isDigit, rest.dropWhile Char.isDigit)
  | rest => ([], rest)

/-- The number that a numeral stands for: an optional sign, digits, an optional point among or beside them, an optional
exponent. There has to be a digit before or after the point. -/
def read? (cs : List Char) : Option Decimal :=
  let (negative, cs) := readSign cs
  let whole := cs.takeWhile Char.isDigit
  let (fraction, rest) := readFraction (cs.dropWhile Char.isDigit)
  if whole = [] ∧ fraction = [] then none
  else (readExponent? rest).map fun e => ⟨negative, ofDigits (whole ++ fraction), e - fraction.length⟩

end Decimal

namespace Single

/-- The number nearest to a decimal number. Powers of ten that lie far outside the format are not worked out: the answer is
infinity or zero for them. -/
def ofDecimal (d : Decimal) : Single :=
  if d.digits = 0 ∨ d.exponent < -(60 + Nat.log2 d.digits : Int) then ofMagnitude d.negative 0
  else if 60 < d.exponent then ofMagnitude d.negative infinite
  else ofRatio d.negative (d.digits * Nat.pow 10 d.exponent.toNat) (Nat.pow 10 (-d.exponent).toNat)

end Single

end DebugConsole
