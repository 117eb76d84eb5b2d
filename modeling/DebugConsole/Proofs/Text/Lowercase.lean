import DebugConsole.Text.AsciiCase
import DebugConsole.Text.Lowercase
import Mathlib.Data.List.Basic

/-!
# Texts in lower case

The lower-case form of a text has no capital letters (`not_isCapital_of_mem_lowercase`), and a text that has none is its own form
(`lowercase_eq_self`). So a form is the form of itself, and since the letters A to Z are capitals, two forms that are the same name
are equal (`sameName_lowercase`).

All of this rests on the table of runs, in which no character is both a capital letter and the form of one. A run can be compared with
another one as a whole (`CaseRun.apart`), which leaves a check for the pairs of runs.
-/

namespace DebugConsole

namespace Text

namespace CaseRun

/-- Whether no form of the one run is a capital letter of the other: the forms all stand before or behind its letters, or else they
fall between them, where both runs take every second code point. -/
def apart (r q : CaseRun) : Bool :=
  (r.image + (r.last - r.first)).blt q.first || (q.last.blt r.image ||
    ((r.stride == 2 || r.first == r.last) && q.stride == 2 && (r.image + q.first) % 2 == 1))

theorem apart_iff (r q : CaseRun) :
    r.apart q = true ↔ r.image + (r.last - r.first) < q.first ∨ q.last < r.image ∨
      (r.stride = 2 ∨ r.first = r.last) ∧ q.stride = 2 ∧ (r.image + q.first) % 2 = 1 := by
  simp [apart, Nat.blt_eq, and_assoc]

/-- All forms of a run are characters. -/
def Valid (r : CaseRun) : Prop :=
  r.image + (r.last - r.first) < 0xd800 ∨ 0xdfff < r.image ∧ r.image + (r.last - r.first) < 0x110000

instance (r : CaseRun) : Decidable r.Valid :=
  inferInstanceAs (Decidable (_ ∨ _))

theorem covers_iff (r : CaseRun) (n : Nat) :
    r.covers n = true ↔ r.first ≤ n ∧ n ≤ r.last ∧ (n - r.first) % r.stride = 0 := by
  simp [covers, and_assoc]

/-- The form of a capital letter is not a capital letter of a run that is apart. -/
theorem not_covers_lower {r q : CaseRun} (h : r.apart q = true) {n : Nat} (capital : r.covers n = true) :
    q.covers (r.lower n) = false := by
  obtain ⟨first, last, step⟩ := (covers_iff r n).1 capital
  rw [Bool.eq_false_iff, ne_eq, covers_iff, lower]
  rintro ⟨first', last', step'⟩
  rcases (apart_iff r q).1 h with before | behind | ⟨every, stride', odd⟩
  · omega
  · omega
  · have even : (n - r.first) % 2 = 0 := by
      rcases every with stride | single
      · rwa [stride] at step
      · omega
    rw [stride'] at step'
    omega

theorem Valid.toNat_lower {r : CaseRun} (h : r.Valid) {n : Nat} (capital : r.covers n = true) :
    (Char.ofNat (r.lower n)).toNat = r.lower n := by
  obtain ⟨first, last, -⟩ := (covers_iff r n).1 capital
  have valid : (r.lower n).isValidChar := by
    unfold lower
    rcases h with before | ⟨behind, bound⟩
    · exact Or.inl (by omega)
    · exact Or.inr ⟨by omega, by omega⟩
  rw [Char.ofNat, dif_pos valid]
  rfl

end CaseRun

/-- The capital letter whose form is two characters, as a run. -/
def dottedRun : CaseRun := ⟨0x130, 0x130, 1, 0x130⟩

theorem valid_of_mem : ∀ r ∈ caseRuns, r.Valid := by
  decide +kernel

/-- No form in the table is a capital letter. -/
theorem all_apart : (caseRuns.all fun r => (dottedRun :: caseRuns).all fun q => r.apart q) = true := by
  decide +kernel

/-- Whether a character is a capital letter, which has a lower-case form other than itself. -/
def isCapital (c : Char) : Bool :=
  (dottedRun :: caseRuns).any (·.covers c.toNat)

theorem not_isCapital_iff {c : Char} : isCapital c = false ↔ ∀ q ∈ dottedRun :: caseRuns, q.covers c.toNat = false := by
  simp [isCapital]

theorem ne_dotted_of_not_isCapital {c : Char} (h : isCapital c = false) : c ≠ '\u0130' := by
  rintro rfl
  exact absurd h (by decide)

theorem ne_sigma_of_not_isCapital {c : Char} (h : isCapital c = false) : c ≠ '\u03a3' := by
  rintro rfl
  exact absurd h (by decide +kernel)

/-- The letters A to Z are capital letters. -/
theorem toLower_of_not_isCapital {c : Char} (h : isCapital c = false) : c.toLower = c := by
  have run : (⟨0x41, 0x5a, 1, 0x61⟩ : CaseRun) ∈ dottedRun :: caseRuns := by decide +kernel
  have missed := not_isCapital_iff.1 h _ run
  rw [Bool.eq_false_iff, ne_eq, CaseRun.covers_iff] at missed
  refine dif_neg ?_
  rintro ⟨first, last⟩
  exact missed ⟨first, last, Nat.mod_one _⟩

theorem lowerChar_of_not_isCapital {c : Char} (h : isCapital c = false) : lowerChar c = [c] := by
  have missed : caseRuns.find? (·.covers c.toNat) = none := by
    rw [List.find?_eq_none]
    intro r member
    rw [not_isCapital_iff.1 h r (List.mem_cons_of_mem _ member)]
    exact Bool.false_ne_true
  rw [lowerChar, if_neg (ne_dotted_of_not_isCapital h), missed]

/-- A character is the letter whose form is two characters, a capital letter of a run, or no capital letter and its own form. -/
theorem lowerChar_cases (c : Char) :
    (c = '\u0130' ∧ lowerChar c = ['i', '\u0307']) ∨
      (∃ r ∈ caseRuns, r.covers c.toNat = true ∧ lowerChar c = [Char.ofNat (r.lower c.toNat)]) ∨
      (isCapital c = false ∧ lowerChar c = [c]) := by
  unfold lowerChar
  by_cases dotted : c = '\u0130'
  · rw [if_pos dotted]
    exact Or.inl ⟨dotted, rfl⟩
  · rw [if_neg dotted]
    cases found : caseRuns.find? (·.covers c.toNat) with
    | some r =>
      have capital : r.covers c.toNat = true := by
        have holds := List.find?_some found
        exact holds
      exact Or.inr (Or.inl ⟨r, List.mem_of_find?_eq_some found, capital, rfl⟩)
    | none =>
      refine Or.inr (Or.inr ⟨not_isCapital_iff.2 ?_, rfl⟩)
      intro q member
      rcases List.mem_cons.1 member with rfl | member
      · rw [Bool.eq_false_iff, ne_eq, CaseRun.covers_iff]
        rintro ⟨first, last, -⟩
        exact dotted (Char.toNat_inj.1 (Nat.le_antisymm last first))
      · exact Bool.eq_false_iff.2 (List.find?_eq_none.1 found q member)

/-- The form of a character has no capital letters. -/
theorem not_isCapital_of_mem_lowerChar {c d : Char} (h : d ∈ lowerChar c) : isCapital d = false := by
  rcases lowerChar_cases c with ⟨-, form⟩ | ⟨r, member, capital, form⟩ | ⟨small, form⟩ <;> rw [form] at h
  · rcases List.mem_pair.1 h with rfl | rfl <;> decide +kernel
  · rw [List.mem_singleton.1 h, not_isCapital_iff]
    intro q other
    rw [(valid_of_mem r member).toNat_lower capital]
    have apart := List.all_eq_true.1 (List.all_eq_true.1 all_apart r member) q other
    exact CaseRun.not_covers_lower apart capital
  · rwa [List.mem_singleton.1 h]

theorem not_isCapital_lowerSigma (before after : List Char) : isCapital (lowerSigma before after) = false := by
  unfold lowerSigma
  split <;> decide +kernel

theorem not_isCapital_of_mem_lowerAfter {before cs : List Char} {d : Char} (h : d ∈ lowerAfter before cs) :
    isCapital d = false := by
  induction cs generalizing before with
  | nil => cases h
  | cons c cs ih =>
    rcases List.mem_append.1 h with first | later
    · split at first
      · rw [List.mem_singleton.1 first]
        exact not_isCapital_lowerSigma before cs
      · exact not_isCapital_of_mem_lowerChar first
    · exact ih later

/-- Nothing happens to characters without capital letters among them. -/
theorem lowerAfter_of_not_isCapital {cs : List Char} (h : ∀ c ∈ cs, isCapital c = false) (before : List Char) :
    lowerAfter before cs = cs := by
  induction cs generalizing before with
  | nil => rfl
  | cons c cs ih =>
    have small := h c List.mem_cons_self
    rw [lowerAfter, if_neg (ne_sigma_of_not_isCapital small), lowerChar_of_not_isCapital small,
      ih fun d member => h d (List.mem_cons_of_mem c member)]
    rfl

/-- The lower-case form of a text has no capital letters. -/
theorem not_isCapital_of_mem_lowercase {s : String} {c : Char} (h : c ∈ (lowercase s).toList) : isCapital c = false := by
  rw [toList_lowercase] at h
  exact not_isCapital_of_mem_lowerAfter h

/-- A text without capital letters is its own lower-case form. -/
theorem lowercase_eq_self {s : String} (h : ∀ c ∈ s.toList, isCapital c = false) : lowercase s = s := by
  rw [← String.toList_inj, toList_lowercase]
  exact lowerAfter_of_not_isCapital h []

@[simp]
theorem lowercase_lowercase (s : String) : lowercase (lowercase s) = lowercase s :=
  lowercase_eq_self fun _ => not_isCapital_of_mem_lowercase

/-- In a lower-case form no letter is left to be folded. -/
@[simp]
theorem asciiFold_lowercase (s : String) : asciiFold (lowercase s) = (lowercase s).toList := by
  unfold asciiFold
  rw [List.map_congr_left fun c member => toLower_of_not_isCapital (not_isCapital_of_mem_lowercase member)]
  exact List.map_id _

/-- Lower-case forms that are the same name are equal. -/
@[simp]
theorem sameName_lowercase (s t : String) : sameName (lowercase s) (lowercase t) = true ↔ lowercase s = lowercase t := by
  rw [sameName_iff, asciiFold_lowercase, asciiFold_lowercase, String.toList_inj]

end Text

end DebugConsole
