import DebugConsole.Text.Identifier

/-!
# Reading a text step by step

A reader takes characters from the front of a text. `Cursor` is where it stands: what is left of the text, and what was left before
the last step. A reader that stops says why, and the last step it took is what the message points to.

Repetition is `Reader.iterate`, which stops if a round takes nothing from the text, so every reader comes to an end.
-/

namespace DebugConsole

namespace Notation

/-- Where a reader stands in a text. -/
structure Cursor where
  /-- What was left of the text before the last step. -/
  before : List Char
  /-- What is left of the text. -/
  rest : List Char
deriving DecidableEq, Repr

/-- A cursor at the start of a text. -/
def Cursor.start (cs : List Char) : Cursor := ⟨cs, cs⟩

/-- The cursor after a step over some characters. -/
def Cursor.advance (n : Nat) (c : Cursor) : Cursor := ⟨c.rest, c.rest.drop n⟩

/-- What a reader finds wrong with a text. -/
inductive Fault
  | unexpectedEnd
  | unexpectedCharacter (c : Char)
  /-- A character that has to be there is not. -/
  | expected (what : String)
  /-- A record with a name does not start with an opening parenthesis. -/
  | expectedRecord (name : String)
  | otherRecord (expected found : String)
  | unnamedRecord (name : String)
  /-- A name that has to be marked as raw. -/
  | rawName (name : String)
  | badEscape (why : String)
  | badDigit (c : Char) (base : Nat)
  | integerTooLarge
  | floatUnderscore
  | leadingUnderscore
  | wrongSuffix (expected found : String)
  | unclosedComment
  | unknownExtension (name : String)
  | unknownVariant (name kind : String) (known : List String)
  | missingField (name record : String)
  | duplicateField (name record : String)
  | wrongLength (expected found : String)
  | tooDeep
  | trailingCharacters
deriving DecidableEq, Repr

/-- Why and where a reader stopped. -/
structure Stop where
  fault : Fault
  cursor : Cursor
deriving DecidableEq, Repr

/-- A reader of a value. -/
abbrev Reader (α : Type) := StateT Cursor (Except Stop) α

namespace Reader

variable {α σ : Type}

/-- Stops. -/
def fail (fault : Fault) : Reader α := fun c => .error ⟨fault, c⟩

/-- What is left of the text. -/
def rest : Reader (List Char) := fun c => .ok (c.rest, c)

/-- Takes a step over some characters. -/
def advance (n : Nat) : Reader Unit := fun c => .ok ((), c.advance n)

/-- The next character, which stays. -/
def peek? : Reader (Option Char) := return (← rest).head?

/-- Takes the next character. -/
def next : Reader Char := do
  match ← peek? with
  | some c => do advance 1; return c
  | none => fail .unexpectedEnd

/-- Takes a piece of text if it comes next. -/
def consume (piece : List Char) : Reader Bool := do
  if piece.isPrefixOf (← rest) then
    advance piece.length
    return true
  else return false

/-- Takes a character that has to come next. -/
def expect (c : Char) (fault : Fault) : Reader Unit := do
  unless ← consume [c] do fail fault

/-- Whether a word comes next and ends there. -/
def isWord (word : String) : Reader Bool := do
  let cs ← rest
  return word.toList.isPrefixOf cs && !(cs.drop word.toList.length).head?.any Text.isIdentifierPart

/-- Takes a word if it comes next and ends there. -/
def consumeWord (word : String) : Reader Bool := do
  if ← isWord word then
    advance word.toList.length
    return true
  else return false

/-- Takes the characters that have a property, in one step. -/
def takeWhile (p : Char → Bool) : Reader (List Char) := do
  let taken := (← rest).takeWhile p
  advance taken.length
  return taken

/-- Repeats a round, which has the state that the round before left, until one answers that there is nothing more. A round that
leaves the text as long as it was stops the reader. -/
def iterate (round : σ → Reader (Option σ)) (s : σ) (c : Cursor) : Except Stop (σ × Cursor) :=
  match round s c with
  | .error stop => .error stop
  | .ok (none, d) => .ok (s, d)
  | .ok (some t, d) =>
    if d.rest.length < c.rest.length then iterate round t d else .error ⟨.unexpectedEnd, d⟩
termination_by c.rest.length

end Reader

/-! ## Spaces and comments -/

/-- Whether a character may stand between two others without a meaning. -/
def isSpace (c : Char) : Bool :=
  c == ' ' || c == '\t' || c == '\n' || c == '\r' || c == '\x0b' || c == '\x0c' || c == '\u0085' || c == '\u200e' ||
    c == '\u200f' || c == '\u2028' || c == '\u2029'

/-- What follows the end of a comment that is nested to some depth. -/
def afterComment : Nat → List Char → Option (List Char)
  | 0, cs => some cs
  | _ + 1, [] => none
  | depth + 1, '/' :: '*' :: rest => afterComment (depth + 2) rest
  | depth + 1, '*' :: '/' :: rest => afterComment depth rest
  | depth + 1, _ :: rest => afterComment (depth + 1) rest

theorem length_afterComment {depth : Nat} {cs rest : List Char} (h : afterComment depth cs = some rest) :
    rest.length ≤ cs.length := by
  fun_induction afterComment depth cs with
  | case1 cs => simp only [Option.some.injEq] at h; simp [h]
  | case2 => simp at h
  | case3 depth cs ih => have := ih h; simp only [List.length_cons]; omega
  | case4 depth cs ih => have := ih h; simp only [List.length_cons]; omega
  | case5 depth c cs _ _ ih => have := ih h; simp only [List.length_cons]; omega

theorem length_dropWhile_le (p : Char → Bool) (cs : List Char) : (cs.dropWhile p).length ≤ cs.length := by
  have h := congrArg List.length (List.takeWhile_append_dropWhile (p := p) (l := cs))
  rw [List.length_append] at h
  omega

/-- Skips spaces and comments. The step that is taken is the one over the spaces after the last comment. -/
def skipSpaces (cs : List Char) : Except Stop Cursor :=
  match _ : cs.dropWhile isSpace with
  | '/' :: '/' :: rest => skipSpaces (rest.dropWhile (· != '\n'))
  | '/' :: '*' :: rest =>
    match _ : afterComment 1 rest with
    | some rest => skipSpaces rest
    | none => .error ⟨.unclosedComment, ⟨[], []⟩⟩
  | '/' :: c :: rest => .error ⟨.unexpectedCharacter c, ⟨c :: rest, rest⟩⟩
  | ['/'] => .error ⟨.unexpectedEnd, ⟨['/'], []⟩⟩
  | rest => .ok ⟨cs, rest⟩
termination_by cs.length
decreasing_by
  · next found =>
      have := length_dropWhile_le isSpace cs
      have := length_dropWhile_le (· != '\n') rest
      simp only [found, List.length_cons] at *
      omega
  · next _ found closed =>
      have := length_dropWhile_le isSpace cs
      have := length_afterComment closed
      simp only [found, List.length_cons] at *
      omega

namespace Reader

/-- Skips spaces and comments. -/
def spaces : Reader Unit := fun c => (skipSpaces c.rest).map fun d => ((), d)

/-- Takes a comma if one comes next, with the spaces around it. -/
def comma : Reader Bool := do
  spaces
  if ← consume [','] then
    spaces
    return true
  else return false

end Reader

end Notation

end DebugConsole
