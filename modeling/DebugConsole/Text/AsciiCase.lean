/-!
# Equality up to the case of A to Z

Names of user commands and of colors are compared up to the case of the letters A to Z. All other characters, accented letters
among them, are compared as they stand.
-/

namespace DebugConsole

namespace Text

/-- The letters A to Z in lower case, all other characters unchanged. -/
def asciiFold (s : String) : List Char :=
  s.toList.map Char.toLower

/-- Whether two texts are equal up to the case of A to Z. -/
def sameName (s t : String) : Bool :=
  asciiFold s == asciiFold t

theorem sameName_iff {s t : String} : sameName s t = true ↔ asciiFold s = asciiFold t := by
  simp [sameName]

@[simp]
theorem sameName_refl (s : String) : sameName s s = true := by
  simp [sameName]

theorem sameName_symm {s t : String} (h : sameName s t = true) : sameName t s = true :=
  sameName_iff.mpr (sameName_iff.mp h).symm

theorem sameName_trans {s t u : String} (h : sameName s t = true) (h' : sameName t u = true) : sameName s u = true :=
  sameName_iff.mpr ((sameName_iff.mp h).trans (sameName_iff.mp h'))

end Text

end DebugConsole
