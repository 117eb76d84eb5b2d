import DebugConsole.Text.CodeRange

/-!
# Blank characters

The characters with the Unicode property White_Space, and the two operations on lines that depend on it: whether a line is
blank, and a line without the blanks at its end.
-/

namespace DebugConsole

namespace Text

/-- The characters with the property White_Space. -/
def blanks : List CodeRange :=
  [⟨0x9, 0xd⟩, ⟨0x20, 0x20⟩, ⟨0x85, 0x85⟩, ⟨0xa0, 0xa0⟩, ⟨0x1680, 0x1680⟩, ⟨0x2000, 0x200a⟩, ⟨0x2028, 0x2029⟩,
    ⟨0x202f, 0x202f⟩, ⟨0x205f, 0x205f⟩, ⟨0x3000, 0x3000⟩]

/-- Whether a character is blank. -/
def isBlankChar (c : Char) : Bool :=
  CodeRange.anyContains blanks c

/-- Whether a text holds no character that is not blank. -/
def isBlank (s : String) : Bool :=
  s.toList.all isBlankChar

/-- The characters up to the last one that is not blank. -/
def dropBlankEnd (cs : List Char) : List Char :=
  (cs.reverse.dropWhile isBlankChar).reverse

/-- The text without the blanks at its end. -/
def trimEnd (s : String) : String :=
  String.ofList (dropBlankEnd s.toList)

theorem isBlankChar_space : isBlankChar ' ' = true := by decide

end Text

end DebugConsole
