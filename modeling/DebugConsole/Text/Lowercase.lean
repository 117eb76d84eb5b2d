import DebugConsole.Text.Cased
import DebugConsole.Text.Lowercase.Runs

/-!
# Lower case

The full lower-case form of a text, by the default mapping of Unicode. Each character has a form of its own, with one exception:
a capital sigma is a final sigma at the end of a word and a plain small one elsewhere. The form of `İ` is two characters.
-/

namespace DebugConsole

namespace Text

/-- The lower-case form of a character taken by itself. -/
def lowerChar (c : Char) : List Char :=
  if c = '\u0130' then ['i', '\u0307']
  else match caseRuns.find? (·.covers c.toNat) with
    | some r => [Char.ofNat (r.lower c.toNat)]
    | none => [c]

/-- Whether the first character that is not case-ignorable is cased. -/
def meetsCased (cs : List Char) : Bool :=
  (cs.find? (fun c => !isCaseIgnorable c)).any isCased

/-- The form of a capital sigma with the characters before it, nearest first, and after it: final if a word ends there. -/
def lowerSigma (before after : List Char) : Char :=
  if meetsCased before && !meetsCased after then '\u03c2' else '\u03c3'

/-- The lower-case form of the rest of a text whose characters so far, nearest first, are `before`. -/
def lowerAfter (before : List Char) : List Char → List Char
  | [] => []
  | c :: rest =>
    (if c = '\u03a3' then [lowerSigma before rest] else lowerChar c) ++ lowerAfter (c :: before) rest

/-- The lower-case form of a text. -/
def lowercase (s : String) : String :=
  String.ofList (lowerAfter [] s.toList)

@[simp]
theorem toList_lowercase (s : String) : (lowercase s).toList = lowerAfter [] s.toList := by
  simp [lowercase]

end Text

end DebugConsole
