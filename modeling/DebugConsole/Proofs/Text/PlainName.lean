import DebugConsole.Proofs.Text.Lowercase

/-!
# Names with no other capital letters than A to Z

Where names are compared up to the case of A to Z, other capital letters count as they stand: they do not meet their small forms. A name
is plain if it has no such letters. To be the same name as a form is to be plain and to have that form (`sameName_lowercase_iff`), so for
plain names the comparison is one of the forms (`sameName_iff_of_isPlain`), and no form is the same name as one that is not plain.
-/

namespace DebugConsole

namespace Text

/-- Whether A to Z are the only capital letters in a text. -/
def isPlain (s : String) : Bool :=
  s.toList.all fun c => !isCapital c || c.isUpper

theorem isPlain_iff {s : String} : isPlain s = true ↔ ∀ c ∈ s.toList, isCapital c = true → c.isUpper = true := by
  rw [isPlain, List.all_eq_true]
  refine forall₂_congr fun c _ => ?_
  cases isCapital c <;> simp

theorem lowerChar_of_isUpper {c : Char} (h : c.isUpper = true) : lowerChar c = [c.toLower] := by
  have all : ∀ k : Fin 26, lowerChar (Char.ofNat (0x41 + k)) = [(Char.ofNat (0x41 + k)).toLower] := by
    decide +kernel
  obtain ⟨first, last⟩ : 0x41 ≤ c.toNat ∧ c.toNat ≤ 0x5a := of_decide_eq_true h
  have letter := all ⟨c.toNat - 0x41, by omega⟩
  rwa [show 0x41 + (c.toNat - 0x41) = c.toNat by omega, Char.ofNat_toNat] at letter

/-- In a plain text the letters A to Z are the ones that are lower-cased. -/
theorem lowerAfter_of_plain {cs : List Char} (h : ∀ c ∈ cs, isCapital c = true → c.isUpper = true) (before : List Char) :
    lowerAfter before cs = cs.map Char.toLower := by
  induction cs generalizing before with
  | nil => rfl
  | cons c cs ih =>
    have form : c ≠ '\u03a3' ∧ lowerChar c = [c.toLower] := by
      cases capital : isCapital c with
      | false =>
        rw [lowerChar_of_not_isCapital capital, toLower_of_not_isCapital capital]
        exact ⟨ne_sigma_of_not_isCapital capital, rfl⟩
      | true =>
        have upper := h c List.mem_cons_self capital
        refine ⟨?_, lowerChar_of_isUpper upper⟩
        rintro rfl
        exact absurd upper (by decide)
    rw [lowerAfter, if_neg form.1, form.2, ih fun d member => h d (List.mem_cons_of_mem c member)]
    rfl

theorem toList_lowercase_of_isPlain {s : String} (h : isPlain s = true) : (lowercase s).toList = asciiFold s := by
  rw [toList_lowercase]
  exact lowerAfter_of_plain (isPlain_iff.1 h) []

/-- A letter that is left by folding A to Z is no capital letter but one of these. -/
theorem isUpper_of_not_isCapital_toLower {c : Char} (h : isCapital c.toLower = false) (capital : isCapital c = true) :
    c.isUpper = true := by
  by_contra other
  have same : c.toLower = c := dif_neg fun upper => other (decide_eq_true upper)
  rw [same, capital] at h
  cases h

/-- A form is the same name as a plain text with that form, and as no other text. -/
theorem sameName_lowercase_iff {s t : String} :
    sameName (lowercase s) t = true ↔ isPlain t = true ∧ lowercase s = lowercase t := by
  rw [sameName_iff, asciiFold_lowercase]
  constructor
  · intro same
    have plain : isPlain t = true := by
      rw [isPlain_iff]
      intro c member
      refine isUpper_of_not_isCapital_toLower (not_isCapital_of_mem_lowercase (s := s) ?_)
      rw [same]
      exact List.mem_map_of_mem member
    refine ⟨plain, ?_⟩
    rw [← String.toList_inj, same, toList_lowercase_of_isPlain plain]
  · rintro ⟨plain, same⟩
    rw [same, toList_lowercase_of_isPlain plain]

/-- Only plain texts are the same name as a plain text, and these if they have the same form. -/
theorem sameName_iff_of_isPlain {s t : String} (plain : isPlain t = true) :
    sameName s t = true ↔ isPlain s = true ∧ lowercase s = lowercase t := by
  have folded : asciiFold t = asciiFold (lowercase t) := by
    rw [asciiFold_lowercase, toList_lowercase_of_isPlain plain]
  rw [sameName_iff, folded, eq_comm, ← sameName_iff, sameName_lowercase_iff, eq_comm (a := lowercase s)]

theorem isPlain_lowercase (s : String) : isPlain (lowercase s) = true := by
  rw [isPlain_iff]
  intro c member capital
  rw [not_isCapital_of_mem_lowercase member] at capital
  cases capital

end Text

end DebugConsole
