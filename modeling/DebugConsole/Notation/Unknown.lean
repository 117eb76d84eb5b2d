import DebugConsole.Notation.Structure

/-!
# Unknown values

The value of a field that is not known is skipped. It may be of any kind, and it has to be well formed all the same: a number that is
not too large for its suffix, a range between two numbers, a text, a list, a map, a record, or an optional value.
-/

namespace DebugConsole

namespace Notation

namespace Reader

variable {α : Type}

/-! ## Numbers -/

/-- The suffixes of integers, with the numbers of bits and whether one of these is a sign. -/
def integerSuffixes : List (String × Nat × Bool) :=
  [("i8", 8, true), ("i16", 16, true), ("i32", 32, true), ("i64", 64, true),
    ("u8", 8, false), ("u16", 16, false), ("u32", 32, false), ("u64", 64, false)]

/-- The greatest magnitude that an integer of some bits has. -/
def magnitudeLimit (bits : Nat) (signed negative : Bool) : Nat :=
  match signed, negative with
  | true, true => 1 <<< (bits - 1)
  | true, false => (1 <<< (bits - 1)) - 1
  | false, true => 0
  | false, false => (1 <<< bits) - 1

/-- Takes the suffix of an integer, which must not be too large for it. Without one there is another limit, or none. -/
def integerSuffix (negative : Bool) (value : Nat) (limit : Option Nat) : Reader Unit := do
  let limit :=
    match ← wordFor integerSuffixes with
    | some (bits, signed) => some (magnitudeLimit bits signed negative)
    | none => limit
  if limit.any (· < value) then fail .integerTooLarge

/-- The base of an integer that is marked as being in another base than ten. -/
def base? : Reader (Option Nat) := do
  if ← consume ['0', 'b'] then return some 2
  else if ← consume ['0', 'o'] then return some 8
  else if ← consume ['0', 'x'] then return some 16
  else return none

/-- Takes the digits of an integer in some base, and its suffix. -/
def basedDigits (negative : Bool) (base : Nat) : Reader Unit := do
  let digits := (← rest).takeWhile fun c => (hexValue? c).isSome || c == '_'
  if digits = [] then fail (.expected "integer")
  if digits.head? = some '_' then fail .leadingUnderscore
  let values := digits.filterMap hexValue?
  if let some c := digits.find? fun c => (hexValue? c).any (base ≤ ·) then fail (.badDigit c base)
  advance digits.length
  integerSuffix negative (values.foldl (fun n d => base * n + d) 0) (some (magnitudeLimit 64 negative negative))

/-- Takes a number that is written in digits. -/
def numeral : Reader Unit := do
  let start ← rest
  let (negative, unsigned) := Decimal.readSign start
  let marked := [['0', 'b'], ['0', 'o'], ['0', 'x']].any (·.isPrefixOf unsigned)
  if marked then
    advanceTo unsigned
    if let some base ← base? then basedDigits negative base
  else
    let _ ← number
    let digits := unsigned.takeWhile fun c => c.isDigit || c == '_'
    if digits.length = unsigned.length - (← rest).length then
      integerSuffix negative (Decimal.ofDigits (digits.filter (· != '_'))) none

/-- Takes a number of any kind, if one comes next: a word for one, a byte or digits. -/
def anyNumber : Reader Bool := do
  let words := ["inf", "inff32", "inff64", "NaN", "NaNf32", "NaNf64"].map (·, ())
  if (← wordFor words).isSome then return true
  let cs ← rest
  if "b'".toList.isPrefixOf cs then
    byte
    return true
  else if cs.head?.any (fun c => c.isDigit || c == '+' || c == '-' || c == '.') && !"..".toList.isPrefixOf cs then
    numeral
    return true
  else return false

/-- Takes a number, or a range between two numbers of which either may be left out. The last one is needed if it belongs to the
range. -/
def numberOrRange : Reader Bool := do
  let started ← anyNumber
  if ← consume "..=".toList then
    unless ← anyNumber do fail (.expected "integer")
    return true
  else if ← consume "..".toList then
    let _ ← anyNumber
    return true
  else return started

/-! ## Values -/

/-- What stands between the parentheses of a value. -/
inductive Contents
  /-- Names with values. -/
  | named
  /-- Values. -/
  | items
deriving DecidableEq, Repr

/-- Whether a text goes on with a name, and what comes behind it and its spaces. -/
def behindName? (cs : List Char) : Option (List Char) :=
  match name? cs with
  | .error _ => none
  | .ok (mark, name) => (skipSpaces (cs.drop (mark + name.length))).toOption.map (·.rest)

/-- What a text between parentheses holds. -/
def contentsOf (cs : List Char) : Contents :=
  if (behindName? cs).bind List.head? = some ':' then .named else .items

/-- Skips fields or items up to a closing parenthesis, which stays. -/
def skipContents (item : Reader Unit) : Reader Unit := do
  match contentsOf (← rest) with
  | .named => do
    let _ ← items ')' do
      let _ ← name
      colon
      item
  | .items => do
    let _ ← items ')' item

/-- Takes something if it comes next. -/
def attempt (r : Reader α) : Reader Unit := fun c =>
  match r c with
  | .ok (_, d) => .ok ((), d)
  | .error _ => .ok ((), c)

/-- Goes on to the first comma outside of all brackets, or to the bracket that closes the text. The answer is whether anything
else follows a comma. -/
def anotherFollows : Reader Bool := do
  let found ← iterate (fun (state : Nat × Option Bool) => do
    let (depth, answer) := state
    if answer.isSome then return none
    spaces
    attempt character
    attempt text
    attempt byteText
    let c ← next
    if c = '(' || c = '[' || c = '{' then return some (depth + 1, none)
    else if c = ')' || c = ']' || c = '}' then return some (depth - 1, if depth = 0 then some false else none)
    else if c = ',' && depth = 0 then
      spaces
      return some (depth, some ((← peek?) != some ')'))
    else return some (depth, none)) (0, none)
  return found.2.getD false

/-- What the only part of a variant holds if it is written without parentheses of its own, unless it is a value in full. -/
def bareContents? : Reader (Option Contents) := fun c =>
  match behindName? c.rest with
  | some (':' :: _) => .ok (some .named, c)
  | some (')' :: _) => .ok (none, c)
  | _ =>
    match anotherFollows c with
    | .ok (several, _) => .ok (if several then some .items else none, c)
    | .error stop => .error stop

/-- The readers for what is inside of an unknown value. -/
structure Inside where
  /-- One level further in. -/
  deeper : Reader Unit → Reader Unit
  /-- A value that is an item or belongs to a field. -/
  item : Reader Unit
  /-- The value of an optional one. -/
  optional : Bool → Reader Unit

/-- Skips a value of any kind that has parentheses of its own if it needs any. -/
def skipValue (e : Extensions) (inside : Inside) : Reader Unit := do
  if (← wordFor [("true", ()), ("false", ())]).isSome then return
  if ← isWord "Some" then
    let _ ← optionalWith e inside.optional
    return
  if ← consumeWord "None" then return
  if ← consume ['(', ')'] then return
  if ← numberOrRange then return
  if (← optionalName).isSome then
    spaces
    if (← peek?) != some '(' then return
  match ← peek? with
  | none => fail .unexpectedEnd
  | some '(' => do
    advance 1
    spaces
    inside.deeper (skipContents inside.item)
    closing ")"
  | some '[' => do
    advance 1
    inside.deeper do
      let _ ← items ']' inside.item
    expect ']' (.expected "closing \x60]\x60")
  | some '{' => do
    advance 1
    inside.deeper do
      let _ ← items '}' do
        inside.item
        colon
        inside.item
    expect '}' (.expected "closing \x60\x7d\x60")
  | some '"' | some 'r' => let _ ← text
  | some 'b' => byteText
  | some '\'' => let _ ← character
  | some c => fail (.unexpectedCharacter c)

/-- Skips a value of any kind, which may be the bare part of a variant. -/
def skipWith (e : Extensions) (inside : Inside) (bare : Bool) : Reader Unit := do
  if bare then
    if (← peek?) = some ')' then return
    if (← bareContents?).isSome then
      inside.deeper (skipContents inside.item)
    else skipValue e inside
  else skipValue e inside

/-- Skips a value of any kind. A value inside of another is two levels further in, the value of an optional one just one level. -/
def skip (e : Extensions) : Nat → Bool → Reader Unit
  | 0 => skipWith e ⟨fun _ => fail .tooDeep, fail .tooDeep, fun _ => fail .tooDeep⟩
  | 1 => skipWith e ⟨id, fail .tooDeep, skip e 0⟩
  | depth + 2 => skipWith e ⟨id, skip e depth false, skip e (depth + 1)⟩

end Reader

end Notation

end DebugConsole
