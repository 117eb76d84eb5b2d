import DebugConsole.Proofs.Notation.Reads
import DebugConsole.Proofs.Number.Numeral

/-!
# Numbers and truth values read back

A number is written as a numeral or as a word, and both are read as the number (`Reader.reads_single`). What comes back for a value
that is no number is one too, but its bits may differ: `Single.reread` is what comes back.
-/

namespace DebugConsole

namespace Single

/-- What is read for a number once it is written: the number, or the one of its sign that stands for no number. -/
def reread (x : Single) : Single :=
  if x.isNan then if x.isNegative then nan.neg else nan else x

/-- The same number, or no number both times. -/
def Agrees (x y : Single) : Prop :=
  x = y ∨ x.isNan = true ∧ y.isNan = true

theorem agrees_reread (x : Single) : x.Agrees x.reread := by
  unfold Agrees reread
  by_cases h : x.isNan = true
  · rw [if_pos h]
    refine Or.inr ⟨h, ?_⟩
    cases x.isNegative <;> decide
  · rw [if_neg h]
    exact Or.inl rfl

/-- An infinite number is infinity of one of the signs. -/
theorem eq_of_isInfinite {x : Single} (h : x.isInfinite = true) : x = if x.isNegative then infinity.neg else infinity := by
  have magnitude : x.magnitude = infinite := beq_iff_eq.mp h
  rw [← ofMagnitude_magnitude x, magnitude]
  cases x.isNegative <;> decide

end Single

namespace Notation

namespace Reader

/-- What may follow a number without belonging to it. -/
def EndsNumber (rest : List Char) : Prop :=
  Ends rest ∧ ∀ c ∈ rest.head?, isNumeralPart c = false

theorem endsNumber_cons {c : Char} (outside : Text.isIdentifierPart c = false) (other : isNumeralPart c = false)
    (rest : List Char) : EndsNumber (c :: rest) := by
  refine ⟨ends_cons outside rest, ?_⟩
  intro d hd
  obtain rfl : c = d := by simpa using hd
  exact other

theorem endsNumber_comma (rest : List Char) : EndsNumber (',' :: rest) :=
  endsNumber_cons (by simp) (by decide) rest

theorem endsNumber_close (rest : List Char) : EndsNumber (')' :: rest) :=
  endsNumber_cons (by simp) (by decide) rest

/-! ## Truth values -/

/-- A truth value is read as it is written. -/
theorem reads_bool (b : Bool) {rest : List Char} (h : Ends rest) :
    Reads bool ((if b then "true".toList else "false".toList) ++ rest) b rest := by
  cases b with
  | true =>
    refine (reads_wordFor (w := ("true", true)) (by decide) (by decide) h).bind ?_
    exact Reads.pure true rest
  | false =>
    refine (reads_wordFor (w := ("false", false)) (by decide) (by decide) h).bind ?_
    exact Reads.pure false rest

/-! ## Numbers -/

/-- The words for numbers start with two characters that are no digits. -/
theorem numberWords_start {w : String × Single} (hw : w ∈ numberWords) :
    ∃ a b more, w.1.toList = a :: b :: more ∧ a.isDigit = false ∧ b.isDigit = false := by
  unfold numberWords at hw
  simp only [List.mem_cons, List.not_mem_nil, or_false] at hw
  rcases hw with rfl | rfl | rfl | rfl | rfl | rfl <;> exact ⟨_, _, _, rfl, by decide, by decide⟩

/-- No word for a number stands where a numeral does. -/
theorem numberWords_other {w : String × Single} (hw : w ∈ numberWords) (suffix : Suffix) (negative : Bool) {d : Char}
    (hd : d.isDigit = true) (rest : List Char) :
    (w.1 ++ suffix.word).toList.isPrefixOf ((if negative then ['-'] else []) ++ d :: rest) = false := by
  obtain ⟨a, b, more, word, ha, hb⟩ := numberWords_start hw
  have differs : ∀ c : Char, c.isDigit = false → (c == d) = false := by
    intro c hc
    rw [beq_eq_false_iff_ne]
    rintro rfl
    rw [hc] at hd
    exact Bool.false_ne_true hd
  rw [String.toList_append, word]
  cases negative with
  | true =>
    change (a == '-' && (b == d && (more ++ suffix.word.toList).isPrefixOf rest)) = false
    rw [differs b hb, Bool.false_and, Bool.and_false]
  | false =>
    change (a == d && (b :: (more ++ suffix.word.toList)).isPrefixOf rest) = false
    rw [differs a ha, Bool.false_and]

/-- No suffix stands where something follows that belongs to no word. -/
theorem suffix_other {rest : List Char} (h : Ends rest) {suffix : Suffix} (some_suffix : suffix ≠ .none) :
    suffix.word.toList.isPrefixOf rest = false := by
  obtain ⟨more, word⟩ : ∃ more, suffix.word.toList = 'f' :: more := by
    cases suffix with
    | none => exact absurd rfl some_suffix
    | single => exact ⟨_, rfl⟩
    | double => exact ⟨_, rfl⟩
  have letter : Text.isIdentifierPart 'f' = true := by simp
  rw [word]
  refine isPrefixOf_eq_false_of_head (fun next => ?_) more
  unfold Ends at h
  rw [next, Option.any_some, letter] at h
  exact Bool.noConfusion h

/-- A word for a number is read as the number. -/
theorem reads_number_word {w : String × Single} (hw : w ∈ numberWords) {rest : List Char} (h : Ends rest) :
    Reads number (w.1.toList ++ rest) (w.2, .none) rest := by
  have apart : ∀ w ∈ numberWords, ∀ v ∈ numberWords, v.1.toList <+: w.1.toList ∨ w.1.toList <+: v.1.toList → v = w := by
    decide
  have plain : numberWords.map (fun w => (w.1 ++ Suffix.none.word, w.2)) = numberWords := rfl
  refine Reads.bind (a := (some (w.2, .none), ())) (Reads.forIn_first ?_) (Reads.pure _ rest)
  rw [plain]
  exact (reads_wordFor hw (apart w hw) h).bind (Reads.pure _ rest)

/-- A numeral is read as the number nearest to what it spells. -/
theorem reads_number_spells {cs : List Char} {n : Nat} {e : Int} (h : Decimal.Spells cs n e) (negative : Bool) {rest : List Char}
    (hrest : EndsNumber rest) :
    Reads number ((if negative then ['-'] else []) ++ cs ++ rest) (.ofDecimal ⟨negative, n, e⟩, .none) rest := by
  have no_word : ∀ suffix : Suffix, ∀ v ∈ numberWords.map (fun w => (w.1 ++ suffix.word, w.2)),
      v.1.toList.isPrefixOf ((if negative then ['-'] else []) ++ cs ++ rest) = false := by
    intro suffix v hv
    obtain ⟨w, hw, rfl⟩ := List.mem_map.mp hv
    obtain ⟨d, more, rfl, hd⟩ := h.head
    rw [List.append_assoc, List.cons_append]
    exact numberWords_other hw suffix negative hd (more ++ rest)
  refine Reads.bind (a := (none, ())) (Reads.forIn_none ?_) ?_
  · intro suffix _
    exact (reads_wordFor_none (no_word suffix)).bind (Reads.pure _ _)
  have nonempty : (if negative then ['-'] else []) ++ cs ≠ [] := by
    obtain ⟨d, more, rfl, -⟩ := h.head
    exact List.append_ne_nil_of_right_ne_nil _ (List.cons_ne_nil d more)
  refine (reads_rest _).bind ?_
  dsimp only
  rw [takeNumeral_spells h negative hrest.2, if_neg nonempty, dropUnderscores_eq (underscore_notMem_spells h negative)]
  dsimp only
  rw [h.read? negative]
  dsimp only
  refine (reads_advance _ _).bind ?_
  rw [List.drop_left]
  refine (reads_consumeWord_other (suffix_other hrest.1 Suffix.noConfusion)).bind ?_
  exact (reads_consumeWord_other (suffix_other hrest.1 Suffix.noConfusion)).bind (Reads.pure _ rest)

/-- A number that is neither infinite nor no number is finite. -/
theorem finite_of_not {x : Single} (number : ¬x.isNan = true) (bounded : ¬x.isInfinite = true) :
    x.magnitude < Single.infinite := by
  have le : x.magnitude ≤ Single.infinite := not_lt.mp fun h => number (decide_eq_true h)
  exact lt_of_le_of_ne le fun h => bounded (beq_iff_eq.mpr h)

/-- A number does not start like a space, a comment or the end of a record. -/
theorem start_of_numeral (style : NumeralStyle) (x : Single) :
    Starts (style.numeral x) ∧ (style.numeral x).head? ≠ some ')' := by
  have word : ∀ {c : Char} (rest : List Char), c ∈ ['-', 'N', 'i'] → Starts (c :: rest) ∧ (c :: rest).head? ≠ some ')' := by
    intro c rest hc
    simp only [List.mem_cons, List.not_mem_nil, or_false] at hc
    rcases hc with rfl | rfl | rfl <;> exact ⟨⟨_, rest, rfl, by decide, by decide⟩, by simp⟩
  by_cases negative : x.isNegative = true
  · unfold NumeralStyle.numeral
    rw [if_pos negative]
    exact word _ (by decide)
  by_cases nan : x.isNan = true
  · unfold NumeralStyle.numeral
    rw [if_neg negative, if_pos nan]
    exact word _ (by decide)
  by_cases bounded : x.isInfinite = true
  · unfold NumeralStyle.numeral
    rw [if_neg negative, if_neg nan, if_pos bounded]
    exact word _ (by decide)
  · obtain ⟨cs, n, e, text, spelled, -⟩ := Single.spells_numeral style (finite_of_not nan bounded)
    obtain ⟨d, rest, rfl, digit⟩ := spelled.head
    rw [text, if_neg negative, List.nil_append]
    refine ⟨starts_cons (by decide) digit rest, ?_⟩
    intro close
    obtain rfl : d = ')' := by simpa using close
    exact absurd digit (by decide)

/-- A number is read from its numeral or its word. -/
theorem reads_single (style : NumeralStyle) (x : Single) {rest : List Char} (hrest : EndsNumber rest) :
    Reads single (style.numeral x ++ rest) x.reread rest := by
  suffices h : Reads number (style.numeral x ++ rest) (x.reread, .none) rest from h.bind (Reads.pure _ rest)
  by_cases nan : x.isNan = true
  · unfold NumeralStyle.numeral Single.reread
    rw [if_pos nan, if_pos nan]
    cases x.isNegative with
    | true => exact reads_number_word (w := ("-NaN", Single.nan.neg)) (by decide) hrest.1
    | false => exact reads_number_word (w := ("NaN", Single.nan)) (by decide) hrest.1
  have same : x.reread = x := if_neg nan
  rw [same]
  by_cases bounded : x.isInfinite = true
  · rw [Single.eq_of_isInfinite bounded]
    unfold NumeralStyle.numeral
    cases x.isNegative with
    | true => exact reads_number_word (w := ("-inf", Single.infinity.neg)) (by decide) hrest.1
    | false => exact reads_number_word (w := ("inf", Single.infinity)) (by decide) hrest.1
  · obtain ⟨cs, n, e, text, spelled, value⟩ := Single.spells_numeral style (finite_of_not nan bounded)
    rw [text]
    have read := reads_number_spells spelled x.isNegative hrest
    rwa [value] at read

end Reader

end Notation

end DebugConsole
