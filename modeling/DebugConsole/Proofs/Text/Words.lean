import DebugConsole.Proofs.Text.Lowercase

/-!
# Lower case word by word

The form of a capital sigma depends on the letters around it, so a text cannot be cut anywhere before it is lower-cased. But the search
for those letters passes over case-ignorable characters alone and ends at any other one, cased or not. A `Barrier` is a character at
which it ends without having met a letter, such as a space or a dash: the forms of what stands on its two sides do not depend on each
other (`Barrier.lowerAfter_append`).

Letters have letters as their forms, so no space comes in or is lost, and the words of the form of a text are the forms of its words
(`splitOn_lowercase`).
-/

namespace DebugConsole

namespace Text

/-- A character that is its own form and separates what stands before it from what stands behind it. -/
structure Barrier (b : Char) : Prop where
  uncased : isCased b = false
  noted : isCaseIgnorable b = false
  small : isCapital b = false

theorem barrier_space : Barrier ' ' := by
  constructor <;> decide +kernel

theorem barrier_dash : Barrier '-' := by
  constructor <;> decide +kernel

namespace Barrier

variable {b : Char}

/-- Nothing cased is met at a barrier, nor behind it. -/
theorem meetsCased_append (h : Barrier b) (cs ds : List Char) : meetsCased (cs ++ b :: ds) = meetsCased cs := by
  unfold meetsCased
  rw [List.find?_append]
  cases cs.find? fun c => !isCaseIgnorable c with
  | some c => rfl
  | none =>
    have stop : (b :: ds).find? (fun c => !isCaseIgnorable c) = some b := by
      rw [List.find?_cons_of_pos]
      rw [h.noted]
      rfl
    rw [Option.none_or, stop]
    exact h.uncased

/-- What stood before a barrier makes no difference behind it. -/
theorem lowerAfter_far (h : Barrier b) (before far cs : List Char) :
    lowerAfter (before ++ b :: far) cs = lowerAfter before cs := by
  induction cs generalizing before with
  | nil => rfl
  | cons c cs ih =>
    rw [lowerAfter, lowerAfter, lowerSigma, lowerSigma, h.meetsCased_append]
    exact congrArg _ (ih (c :: before))

/-- The two sides of a barrier are lower-cased apart from each other. -/
theorem lowerAfter_append (h : Barrier b) (before cs ds : List Char) :
    lowerAfter before (cs ++ b :: ds) = lowerAfter before cs ++ b :: lowerAfter [] ds := by
  induction cs generalizing before with
  | nil =>
    rw [List.nil_append, lowerAfter, lowerAfter, if_neg (ne_sigma_of_not_isCapital h.small),
      lowerChar_of_not_isCapital h.small]
    exact congrArg (b :: ·) (h.lowerAfter_far [] before ds)
  | cons c cs ih =>
    rw [List.cons_append, lowerAfter, lowerAfter, lowerSigma, lowerSigma, h.meetsCased_append, ih, List.append_assoc]

theorem lowercase_cons (h : Barrier b) (cs : List Char) :
    lowercase (String.ofList (b :: cs)) = String.ofList (b :: (lowercase (String.ofList cs)).toList) := by
  rw [← String.toList_inj, toList_lowercase, String.toList_ofList, String.toList_ofList, toList_lowercase,
    String.toList_ofList]
  exact h.lowerAfter_append [] [] cs

end Barrier

/-- The forms in the table are letters, which come behind the upper-case letters and the marks of ASCII. -/
theorem image_ge_of_mem : ∀ r ∈ caseRuns, 0x61 ≤ r.image := by
  decide +kernel

/-- The form of a letter is made of letters: any other character comes from itself alone. -/
theorem eq_of_mem_lowerChar {c d : Char} (h : d ∈ lowerChar c) (other : d.toNat < 0x61) : d = c := by
  rcases lowerChar_cases c with ⟨-, form⟩ | ⟨r, member, capital, form⟩ | ⟨-, form⟩ <;> rw [form] at h
  · rcases List.mem_pair.1 h with rfl | rfl <;> exact absurd other (by decide)
  · rw [List.mem_singleton.1 h, (valid_of_mem r member).toNat_lower capital, CaseRun.lower] at other
    have image := image_ge_of_mem r member
    omega
  · exact List.mem_singleton.1 h

/-- The form of the first character comes first. It is not empty, and what is no letter in it is that character itself. -/
theorem lowerAfter_cons (before : List Char) (c : Char) (cs : List Char) :
    ∃ form, form ≠ [] ∧ (∀ d ∈ form, d.toNat < 0x61 → d = c) ∧
      lowerAfter before (c :: cs) = form ++ lowerAfter (c :: before) cs := by
  refine ⟨_, ?_, ?_, rfl⟩
  · split
    · exact List.cons_ne_nil _ _
    · rcases lowerChar_cases c with ⟨-, form⟩ | ⟨_, -, -, form⟩ | ⟨-, form⟩ <;> rw [form] <;> exact List.cons_ne_nil _ _
  · intro d member other
    split at member
    · rw [List.mem_singleton.1 member, lowerSigma] at other
      split at other <;> exact absurd other (by decide)
    · exact eq_of_mem_lowerChar member other

/-- What is no letter does not come from anything else. -/
theorem mem_of_mem_lowerAfter {before cs : List Char} {d : Char} (h : d ∈ lowerAfter before cs) (other : d.toNat < 0x61) :
    d ∈ cs := by
  induction cs generalizing before with
  | nil => cases h
  | cons c cs ih =>
    obtain ⟨form, -, own, split⟩ := lowerAfter_cons before c cs
    rw [split] at h
    rcases List.mem_append.1 h with first | later
    · rw [own d first other]
      exact List.mem_cons_self
    · exact List.mem_cons_of_mem c (ih later)

/-- A text begins with a barrier if and only if its form does. -/
theorem Barrier.head?_lowercase {b : Char} (h : Barrier b) (other : b.toNat < 0x61) (s : String) :
    (lowercase s).toList.head? = some b ↔ s.toList.head? = some b := by
  rw [toList_lowercase]
  cases s.toList with
  | nil => exact Iff.rfl
  | cons c cs =>
    constructor
    · intro first
      obtain ⟨form, nonempty, own, split⟩ := lowerAfter_cons [] c cs
      rw [split, List.head?_append_of_ne_nil _ nonempty] at first
      rw [own b (List.mem_of_head? first) other]
      rfl
    · intro first
      obtain rfl : c = b := Option.some.inj first
      rw [← List.nil_append (c :: cs), h.lowerAfter_append]
      rfl

/-- No word has the separator in it. -/
theorem not_mem_of_mem_splitOn {α : Type} [BEq α] [LawfulBEq α] {b : α} {cs word : List α} (h : word ∈ cs.splitOn b) :
    b ∉ word := by
  by_cases member : b ∈ cs
  · obtain ⟨first, rest, rfl, whole⟩ := List.eq_append_cons_of_mem member
    have shorter : rest.length < (first ++ b :: rest).length := by
      rw [List.length_append, List.length_cons]
      omega
    rw [List.splitOn_append_cons_self_of_not_mem whole, List.mem_cons] at h
    rcases h with rfl | later
    · exact whole
    · exact not_mem_of_mem_splitOn later
  · rw [List.splitOn_eq_singleton member, List.mem_singleton] at h
    rwa [h]
termination_by cs.length

/-- The words of the form are the forms of the words. -/
theorem splitOn_lowerAfter {b : Char} (h : Barrier b) (other : b.toNat < 0x61) (cs : List Char) :
    (lowerAfter [] cs).splitOn b = (cs.splitOn b).map (lowerAfter []) := by
  by_cases member : b ∈ cs
  · obtain ⟨word, rest, rfl, whole⟩ := List.eq_append_cons_of_mem member
    have shorter : rest.length < (word ++ b :: rest).length := by
      rw [List.length_append, List.length_cons]
      omega
    have lowered : b ∉ lowerAfter [] word := fun found => whole (mem_of_mem_lowerAfter found other)
    rw [h.lowerAfter_append, List.splitOn_append_cons_self_of_not_mem lowered, List.splitOn_append_cons_self_of_not_mem whole,
      splitOn_lowerAfter h other rest, List.map_cons]
  · have lowered : b ∉ lowerAfter [] cs := fun found => member (mem_of_mem_lowerAfter found other)
    rw [List.splitOn_eq_singleton lowered, List.splitOn_eq_singleton member]
    rfl
termination_by cs.length

theorem splitOn_lowercase (s : String) :
    ((lowercase s).toList.splitOn ' ').map String.ofList =
      (s.toList.splitOn ' ').map fun word => lowercase (String.ofList word) := by
  rw [toList_lowercase, splitOn_lowerAfter barrier_space (by decide), List.map_map]
  refine List.map_congr_left fun word _ => ?_
  rw [← String.toList_inj, toList_lowercase, String.toList_ofList, Function.comp_apply, String.toList_ofList]

end Text

end DebugConsole
