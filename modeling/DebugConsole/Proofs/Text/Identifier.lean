import DebugConsole.Text.Identifier

/-!
# The ASCII characters of names

Among the ASCII characters, a name starts with a letter or an underscore and goes on with letters, digits and underscores. The words that
the notation knows are made of these characters, and its marks are not.
-/

namespace DebugConsole

namespace Text

/-- Only the ranges at the front of a table hold characters below the ones that follow. -/
theorem anyContains_take {table : List CodeRange} (k : Nat) {bound : Nat} (above : ∀ r ∈ table.drop k, bound ≤ r.first) {c : Char}
    (small : c.toNat < bound) : CodeRange.anyContains table c = CodeRange.anyContains (table.take k) c := by
  have nothing : CodeRange.anyContains (table.drop k) c = false := by
    rw [Bool.eq_false_iff]
    intro found
    obtain ⟨r, member, below, -⟩ := (CodeRange.anyContains_iff _ c).1 found
    exact absurd small (Nat.not_lt.2 (Nat.le_trans (above r member) below))
  have parts : CodeRange.anyContains (table.take k ++ table.drop k) c = CodeRange.anyContains (table.take k) c := by
    rw [CodeRange.anyContains, List.any_append]
    exact (congrArg _ nothing).trans (Bool.or_false _)
  rwa [List.take_append_drop] at parts

/-- A property of the ASCII characters is checked on each of them. -/
theorem ascii_forall {p : Char → Prop} (all : ∀ n < 128, p (Char.ofNat n)) {c : Char} (small : c.toNat < 128) : p c :=
  Char.ofNat_toNat c ▸ all c.toNat small

theorem anyContains_identifierStartRanges {c : Char} (small : c.toNat < 128) :
    CodeRange.anyContains identifierStartRanges c = c.isAlpha := by
  rw [anyContains_take 2 (by decide +kernel) small]
  revert small
  exact ascii_forall (p := fun c => CodeRange.anyContains (identifierStartRanges.take 2) c = c.isAlpha) (by decide)

@[simp]
theorem isIdentifierStart_ascii {c : Char} (small : c.toNat < 128) : isIdentifierStart c = (c.isAlpha || c == '_') := by
  rw [isIdentifierStart, anyContains_identifierStartRanges small, Bool.or_comm]

@[simp]
theorem isIdentifierPart_ascii {c : Char} (small : c.toNat < 128) : isIdentifierPart c = (c.isAlphanum || c == '_') := by
  have extra : CodeRange.anyContains identifierExtraRanges c = (c.isDigit || c == '_') := by
    rw [anyContains_take 2 (by decide +kernel) small]
    revert small
    exact ascii_forall (p := fun c => CodeRange.anyContains (identifierExtraRanges.take 2) c = (c.isDigit || c == '_')) (by decide)
  rw [isIdentifierPart, anyContains_identifierStartRanges small, extra, Char.isAlphanum, Bool.or_assoc]

/-- What a name starts with may stand further on in it. -/
theorem isIdentifierPart_of_isIdentifierStart {c : Char} (h : isIdentifierStart c = true) : isIdentifierPart c = true := by
  rcases Bool.or_eq_true _ _ ▸ h with underscore | listed
  · rw [beq_iff_eq.1 underscore]
    exact isIdentifierPart_ascii (by decide)
  · rw [isIdentifierPart, listed, Bool.true_or]

end Text

end DebugConsole
