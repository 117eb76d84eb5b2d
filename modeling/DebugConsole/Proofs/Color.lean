import DebugConsole.Command.Stock
import DebugConsole.Proofs.Text.Lowercase

/-!
# The vocabulary of colors

A name of the vocabulary has no capital letters, and no two colors have the same name. So the look-up of a text finds the one color whose
name the text is, up to the case of A to Z, and it does not matter in which order the vocabulary is searched (`find?_eq_some_iff`). What a
text stands for is what the look-up finds, or else green (`ofText_eq_iff`).
-/

namespace DebugConsole

namespace ColorName

/-- No two colors have the same name. -/
theorem text_inj {m n : ColorName} (h : m.text = n.text) : m = n := by
  have distinct : ∀ m ∈ all, ∀ n ∈ all, m.text = n.text → m = n := by decide
  exact distinct m (mem_all m) n (mem_all n) h

/-- No name has a letter to be folded. -/
theorem asciiFold_text (n : ColorName) : Text.asciiFold n.text = n.text.toList := by
  have small : ∀ n ∈ all, Text.asciiFold n.text = n.text.toList := by decide
  exact small n (mem_all n)

/-- A text spells a name if and only if it is the name up to the case of A to Z. -/
theorem find?_eq_some_iff {s : String} {n : ColorName} : find? s = some n ↔ Text.asciiFold s = n.text.toList := by
  have spells : ∀ m : ColorName, Text.sameName m.text s = true ↔ Text.asciiFold s = m.text.toList := by
    intro m
    rw [Text.sameName_iff, asciiFold_text]
    exact eq_comm
  have spelled : ∀ m, find? s = some m → Text.asciiFold s = m.text.toList := by
    intro m found
    have same := List.find?_some found
    exact (spells m).1 same
  constructor
  · exact spelled n
  · intro same
    cases found : find? s with
    | none => exact absurd ((spells n).2 same) (List.find?_eq_none.1 found n (mem_all n))
    | some m => exact congrArg some (text_inj (String.toList_inj.1 ((spelled m found).symm.trans same)))

/-- A text in lower case spells a name if and only if it is the name. -/
theorem find?_lowercase_eq_some_iff {s : String} {n : ColorName} :
    find? (Text.lowercase s) = some n ↔ n.text = Text.lowercase s := by
  rw [find?_eq_some_iff, Text.asciiFold_lowercase, String.toList_inj]
  exact eq_comm

theorem ofText_of_find?_eq_some {s : String} {n : ColorName} (h : find? s = some n) : ofText s = n := by
  rw [ofText, h, Option.getD_some]

theorem ofText_of_find?_eq_none {s : String} (h : find? s = none) : ofText s = green := by
  rw [ofText, h, Option.getD_none, fallback]

end ColorName

end DebugConsole
