import DebugConsole.Notation.Reader
import DebugConsole.Number.Decimal

/-!
# Names, texts and numbers

The smallest parts of the settings notation. A name may be marked as raw, with more characters to choose from; a text is quoted with
escapes or raw between number signs; a number may have underscores between its digits.

An escape in hexadecimal digits stands for a byte, so a character beyond ASCII takes as many of them as its encoding has bytes.
-/

namespace DebugConsole

namespace Notation

/-! ## Names -/

/-- Whether a raw name may hold a character. -/
def isRawPart (c : Char) : Bool :=
  c == '.' || c == '+' || c == '-' || Text.isIdentifierPart c

/-- How texts, bytes and characters of bytes start, which look like names. -/
def literalMarks : List (List Char) :=
  ["b\"".toList, "b'".toList, "br#".toList, "br\"".toList, "r\"".toList, "r#\"".toList, "r##".toList]

/-- The name at the front of a text, with the length of the mark in front of it. -/
def name? (cs : List Char) : Except Fault (Nat × List Char) :=
  match cs with
  | [] => .error .unexpectedEnd
  | first :: _ =>
    if !Text.isIdentifierStart first then
      if isRawPart first then .error (.rawName (String.ofList (cs.takeWhile isRawPart)))
      else .error (.expected "identifier")
    else if literalMarks.any (·.isPrefixOf cs) then .error (.expected "identifier")
    else if "r#".toList.isPrefixOf cs then
      match (cs.drop 2).takeWhile isRawPart with
      | [] => .error (.expected "identifier")
      | name => .ok (2, name)
    else
      let name := cs.takeWhile Text.isIdentifierPart
      let raw := cs.takeWhile isRawPart
      if name.length < raw.length then .error (.rawName (String.ofList raw)) else .ok (0, name)

namespace Reader

/-- Takes a name. -/
def name : Reader String := do
  match name? (← rest) with
  | .error fault => fail fault
  | .ok (mark, name) => do
    if mark ≠ 0 then advance mark
    advance name.length
    return String.ofList name

/-- Takes a name if one comes next. -/
def optionalName : Reader (Option String) := do
  match name? (← rest) with
  | .error _ => return none
  | .ok (mark, name) => do
    advance (mark + name.length)
    return some (String.ofList name)

end Reader

/-! ## Texts -/

/-- The value of a hexadecimal digit. -/
def hexValue? (c : Char) : Option Nat :=
  if c.isDigit then some (c.toNat - '0'.toNat)
  else if 'a' ≤ c ∧ c ≤ 'f' then some (c.toNat - 'a'.toNat + 10)
  else if 'A' ≤ c ∧ c ≤ 'F' then some (c.toNat - 'A'.toNat + 10)
  else none

/-- The number that hexadecimal digits stand for. -/
def hexNumber? (ds : List Char) : Option Nat :=
  ds.foldlM (fun n d => (hexValue? d).map (16 * n + ·)) 0

/-- The character with a code point. -/
def charOf? (n : Nat) : Option Char :=
  if n.isValidChar then some (Char.ofNat n) else none

/-- The character that has some bytes as its encoding. -/
def charOfBytes? (bytes : List UInt8) : Option Char :=
  match (String.fromUTF8? ⟨bytes.toArray⟩).map String.toList with
  | some [c] => some c
  | _ => none

/-- The byte that two hexadecimal digits stand for, and what follows them. -/
def hexByte? : List Char → Option (UInt8 × List Char)
  | a :: b :: rest => (hexNumber? [a, b]).map fun n => (UInt8.ofNat n, rest)
  | _ => none

/-- The character that is escaped byte by byte, from what follows the mark of the next byte, and what follows it all. The bytes
before are given, and so is the number of bytes that may still come after the next one. -/
def byteEscapes? (before : List UInt8) (more : Nat) (cs : List Char) : Except String (Char × List Char) :=
  match hexByte? cs with
  | none => .error "Non-hex digit found"
  | some (byte, rest) =>
    match charOfBytes? (before ++ [byte]), more, rest with
    | some c, _, rest => .ok (c, rest)
    | none, more + 1, '\\' :: 'x' :: rest => byteEscapes? (before ++ [byte]) more rest
    | none, _, _ => .error "Not a valid byte-escaped Unicode character"

/-- Where an escape stands, which decides what a byte in hexadecimal digits may be. -/
inductive EscapePlace
  /-- In a text, where the bytes of a character may follow each other. -/
  | text
  /-- In a single character, which such a byte has to be. -/
  | character
  /-- In a text of bytes, where every byte stands for itself. -/
  | bytes
deriving DecidableEq, Repr

/-- The character that an escape in hexadecimal digits stands for, from what follows its mark. -/
def EscapePlace.hexEscape? : EscapePlace → List Char → Except String (Char × List Char)
  | text, cs => byteEscapes? [] 3 cs
  | character, cs => byteEscapes? [] 0 cs
  | bytes, cs =>
    match hexByte? cs with
    | some (byte, rest) => .ok (Char.ofNat byte.toNat, rest)
    | none => .error "Non-hex digit found"

/-- The character that an escape stands for, from what follows its backslash, and what follows the escape. -/
def escape? (place : EscapePlace) : List Char → Except String (Char × List Char)
  | '\'' :: rest => .ok ('\'', rest)
  | '"' :: rest => .ok ('"', rest)
  | '\\' :: rest => .ok ('\\', rest)
  | 'n' :: rest => .ok ('\n', rest)
  | 'r' :: rest => .ok ('\r', rest)
  | 't' :: rest => .ok ('\t', rest)
  | '0' :: rest => .ok ('\x00', rest)
  | 'x' :: rest => place.hexEscape? rest
  | 'u' :: '{' :: rest =>
    let ds := (rest.take 6).takeWhile (· != '}')
    match hexNumber? ds, rest.drop ds.length with
    | none, _ => .error "Non-hex digit found"
    | some n, '}' :: rest =>
      if ds = [] then .error "Expected 1-6 digits, got 0 digits in Unicode escape"
      else
        match charOf? n with
        | some c => .ok (c, rest)
        | none => .error "Not a valid Unicode-escaped character"
    | some _, _ => .error "No \x7d at the end of Unicode escape"
  | 'u' :: _ => .error "Missing \x7b in Unicode escape"
  | _ => .error "Unknown escape character"

/-- The text that goes on in the next line, from what follows a backslash at the end of a line: the blanks at the front of the next
lines are left out. -/
def nextLine? (cs : List Char) : Option (List Char) :=
  let skipBlanks (rest : List Char) := rest.dropWhile fun c => c == ' ' || c == '\t' || c == '\n' || c == '\r'
  match cs with
  | '\n' :: rest => some (skipBlanks rest)
  | '\r' :: '\n' :: rest => some (skipBlanks rest)
  | _ => none

/-- The characters of a quoted text after its opening quote, and what follows its closing quote. -/
def quoted? (place : EscapePlace) (cs : List Char) : Except Fault (List Char × List Char) :=
  match cs with
  | [] => .error (.expected "end of string")
  | '"' :: rest => .ok ([], rest)
  | '\\' :: rest =>
    let step : Except Fault (List Char × List Char) :=
      match nextLine? rest with
      | some after => .ok ([], after)
      | none =>
        match escape? place rest with
        | .ok (c, after) => .ok ([c], after)
        | .error why => .error (.badEscape why)
    match step with
    | .error fault => .error fault
    | .ok (piece, after) =>
      if after.length < rest.length then
        match quoted? place after with
        | .ok (text, after) => .ok (piece ++ text, after)
        | .error fault => .error fault
      else .error (.expected "end of string")
  | c :: rest =>
    match quoted? place rest with
    | .ok (text, after) => .ok (c :: text, after)
    | .error fault => .error fault
termination_by cs.length
decreasing_by all_goals simp only [List.length_cons]; omega

/-- The characters of a raw text after its opening quote, up to a quote with as many number signs as there were before it, and what
follows them. -/
def raw? (signs : Nat) : List Char → Option (List Char × List Char)
  | [] => none
  | c :: rest =>
    if c = '"' ∧ (List.replicate signs '#').isPrefixOf rest then some ([], rest.drop signs)
    else (raw? signs rest).map fun (text, after) => (c :: text, after)

namespace Reader

/-- Takes the part of a text that something was found in, up to what follows it. -/
def advanceTo (after : List Char) : Reader Unit := do
  advance ((← rest).length - after.length)

/-- Takes a text, quoted or raw. -/
def textIn (place : EscapePlace) : Reader String := do
  if ← consume ['"'] then
    match quoted? place (← rest) with
    | .error fault => fail fault
    | .ok (text, after) => do
      advanceTo after
      return String.ofList text
  else if ← consume ['r'] then
    let signs ← takeWhile (· == '#')
    expect '"' (.expected "string")
    match raw? signs.length (← rest) with
    | none => fail (.expected "end of string")
    | some (text, after) => do
      advanceTo after
      return String.ofList text
  else fail (.expected "string")

/-- Takes a text, quoted or raw. -/
def text : Reader String :=
  textIn .text

/-- Takes a text of bytes, quoted or raw. -/
def byteText : Reader Unit := do
  expect 'b' (.expected "byte string")
  let _ ← textIn .bytes

/-- Takes the rest of an escape after its backslash. -/
def escape (place : EscapePlace) : Reader Char := do
  match escape? place (← rest) with
  | .error why => fail (.badEscape why)
  | .ok (c, after) => do
    advanceTo after
    return c

/-- Takes a character between single quotes. -/
def character : Reader Char := do
  expect '\'' (.expected "char")
  let first ← next
  let c ← if first = '\\' then escape .character else pure first
  expect '\'' (.expected "char")
  return c

/-- Takes a byte, written as a character between single quotes. A byte beyond ASCII is escaped. -/
def byte : Reader Unit := do
  expect 'b' (.expected "byte literal")
  expect '\'' (.expected "byte literal")
  let first ← next
  if first = '\\' then
    if (← peek?) = some 'u' then fail (.badEscape "Unexpected Unicode escape in byte literal")
    let _ ← escape .bytes
  else if 127 < first.toNat then fail (.expected "byte literal")
  expect '\'' (.expected "byte literal")

end Reader

/-! ## Numbers -/

/-- Whether a decimal number may hold a character. -/
def isNumeralPart (c : Char) : Bool :=
  c.isDigit || c == 'e' || c == 'E' || c == '.' || c == '+' || c == '-' || c == '_'

/-- The decimal numeral at the front of a text. Two points in a row do not belong to it. -/
def takeNumeral : List Char → List Char
  | [] => []
  | c :: rest =>
    if !isNumeralPart c || (c == '.' && rest.head? == some '.') then [] else c :: takeNumeral rest

/-- A numeral without its underscores. One may stand behind a digit or the letter of the exponent, with signs and other underscores
between, but not behind a point. -/
def dropUnderscores (allowed : Bool) : List Char → Option (List Char)
  | [] => some []
  | c :: rest =>
    if c = '_' then if allowed then dropUnderscores allowed rest else none
    else
      let allowed := c.isDigit || c == 'e' || c == 'E' || (allowed && c != '.')
      (dropUnderscores allowed rest).map (c :: ·)

/-- The words for numbers that have no digits. -/
def numberWords : List (String × Single) :=
  [("inf", .infinity), ("+inf", .infinity), ("-inf", Single.infinity.neg), ("NaN", .nan), ("+NaN", .nan),
    ("-NaN", Single.nan.neg)]

/-- A suffix that names the kind of a number. -/
inductive Suffix
  | none | single | double
deriving DecidableEq, Repr

def Suffix.word : Suffix → String
  | none => ""
  | single => "f32"
  | double => "f64"

namespace Reader

/-- Takes one of some words that stand for values. -/
def wordFor {α : Type} : List (String × α) → Reader (Option α)
  | [] => return none
  | (word, value) :: others => do
    if ← consumeWord word then return some value else wordFor others

/-- Takes a decimal number with its suffix. -/
def number : Reader (Single × Suffix) := do
  for suffix in [Suffix.none, .single, .double] do
    if let some value ← wordFor (numberWords.map fun w => (w.1 ++ suffix.word, w.2)) then return (value, suffix)
  let cs ← rest
  let numeral := takeNumeral cs
  if numeral = [] then fail (.expected "float")
  match dropUnderscores false numeral with
  | none => do
    advance (numeral.takeWhile (· != '_')).length
    fail .floatUnderscore
  | some digits =>
    match Decimal.read? digits with
    | none => fail (.expected "float")
    | some value => do
      advance numeral.length
      if ← consumeWord Suffix.single.word then return (.ofDecimal value, .single)
      else if ← consumeWord Suffix.double.word then return (.ofDecimal value, .double)
      else return (.ofDecimal value, .none)

/-- Takes a single-precision number. -/
def single : Reader Single := do
  match ← number with
  | (_, .double) => fail (.wrongSuffix "a 32-bit floating-point number" "a 64-bit one")
  | (value, _) => return value

/-- Takes a truth value. -/
def bool : Reader Bool := do
  match ← wordFor [("true", true), ("false", false)] with
  | some value => return value
  | none => fail (.expected "boolean")

end Reader

end Notation

end DebugConsole
