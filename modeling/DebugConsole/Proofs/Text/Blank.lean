import DebugConsole.Text.Blank
import Mathlib.Data.List.DropRight

/-!
# Texts without the blanks at their end

The blanks at the end of a text are all that trimming takes away, and none is left there (`trims_trimEnd`). So a text is blank if and only if
it is when its end was trimmed.
-/

namespace DebugConsole

namespace Text

theorem isBlank_append (s t : String) : isBlank (s ++ t) = (isBlank s && isBlank t) := by
  rw [isBlank, String.toList_append, List.all_append]
  rfl

/-- A text is another one and then blanks, and the other one does not end in a blank. -/
structure Trims (s trimmed : String) : Prop where
  split : ∃ blanks, isBlank blanks = true ∧ s = trimmed ++ blanks
  ends : ∀ c ∈ trimmed.toList.getLast?, isBlankChar c = false

theorem trims_trimEnd (s : String) : Trims s (trimEnd s) := by
  have kept : (trimEnd s).toList = s.toList.rdropWhile isBlankChar := String.toList_ofList
  constructor
  · refine ⟨String.ofList (s.toList.rtakeWhile isBlankChar), ?_, ?_⟩
    · rw [isBlank, String.toList_ofList, List.all_eq_true]
      exact fun c => List.mem_rtakeWhile_imp
    · rw [← String.toList_inj, String.toList_append, kept, String.toList_ofList]
      exact List.rdropWhile_append_rtakeWhile.symm
  · intro c last
    obtain ⟨nonempty, rfl⟩ := List.mem_getLast?_eq_getLast last
    rw [kept] at nonempty
    simp only [kept]
    exact Bool.eq_false_iff.2 (List.rdropWhile_last_not isBlankChar s.toList nonempty)

/-- A text is blank if and only if it is when its end was trimmed. -/
theorem isBlank_trimEnd (s : String) : isBlank (trimEnd s) = isBlank s := by
  obtain ⟨blanks, blank, split⟩ := (trims_trimEnd s).split
  have both := isBlank_append (trimEnd s) blanks
  rw [← split, blank, Bool.and_true] at both
  exact both.symm

end Text

end DebugConsole
