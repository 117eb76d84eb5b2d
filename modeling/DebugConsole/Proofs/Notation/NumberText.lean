import DebugConsole.Proofs.Notation.Literal
import DebugConsole.Proofs.Notation.Number

/-!
# Numbers as they may be written

A number may be a word or a decimal numeral with underscores, perhaps with a suffix for its kind: `NumberText` is how. It is taken up
to what cannot belong to it (`Reader.reads_number_text`).
-/

namespace DebugConsole

namespace Notation

/-! ## Words -/

/-- A word stands in front of a text and ends there if it is as far as the text goes on like a word. -/
theorem isPrefixOf_and_ends {p : Char → Bool} {word : List Char} (all : ∀ c ∈ word, p c = true) (cs : List Char) :
    (word.isPrefixOf cs && !(cs.drop word.length).head?.any p) = decide (cs.takeWhile p = word) := by
  induction word generalizing cs with
  | nil =>
    cases cs with
    | nil => rfl
    | cons c cs => by_cases part : p c = true <;> simp [part]
  | cons d word ih =>
    have part : p d = true := all d List.mem_cons_self
    have ih := ih fun c hc => all c (List.mem_cons_of_mem _ hc)
    cases cs with
    | nil => rfl
    | cons c cs =>
      by_cases same : d = c
      · subst same
        simpa [List.isPrefixOf, part] using ih cs
      · have differs : (d == c) = false := beq_eq_false_iff_ne.2 same
        have other : (c :: cs).takeWhile p ≠ d :: word := by
          intro h
          by_cases hc : p c = true
          · rw [List.takeWhile_cons_of_pos hc] at h
            exact same (List.cons.inj h).1.symm
          · rw [List.takeWhile_cons_of_neg hc] at h
            exact List.cons_ne_nil _ _ h.symm
        rw [List.isPrefixOf, differs, decide_eq_false other]
        rfl

/-- The word at the front of a text. -/
def firstWord (cs : List Char) : List Char :=
  cs.takeWhile Text.isIdentifierPart

namespace Reader

variable {α : Type} {cs rest : List Char}

theorem reads_isWord_firstWord {word : String} (all : ∀ c ∈ word.toList, Text.isIdentifierPart c = true) (cs : List Char) :
    Reads (isWord word) cs (decide (firstWord cs = word.toList)) cs := by
  have found := reads_isWord word cs
  rwa [isPrefixOf_and_ends all] at found

/-- No word is taken that is not the first one. -/
theorem reads_consumeWord_firstWord {word : String} (all : ∀ c ∈ word.toList, Text.isIdentifierPart c = true)
    (other : firstWord cs ≠ word.toList) : Reads (consumeWord word) cs false cs := by
  have found := reads_isWord_firstWord all cs
  rw [decide_eq_false other] at found
  refine found.bind ?_
  rw [if_neg Bool.false_ne_true]
  exact Reads.pure false cs

theorem reads_wordFor_firstWord {words : List (String × α)} (all : ∀ w ∈ words, ∀ c ∈ w.1.toList, Text.isIdentifierPart c = true)
    (other : ∀ w ∈ words, firstWord cs ≠ w.1.toList) : Reads (wordFor words) cs none cs := by
  induction words with
  | nil => exact Reads.pure none cs
  | cons w words ih =>
    refine (reads_consumeWord_firstWord (all w List.mem_cons_self) (other w List.mem_cons_self)).bind ?_
    exact ih (fun v hv => all v (List.mem_cons_of_mem _ hv)) fun v hv => other v (List.mem_cons_of_mem _ hv)

/-- A word that is written out is the first one. -/
theorem firstWord_append {word : List Char} (all : ∀ c ∈ word, Text.isIdentifierPart c = true) (ends : Ends rest) :
    firstWord (word ++ rest) = word := by
  refine takeWhile_stop all ?_
  intro c hc
  unfold Ends at ends
  rw [hc] at ends
  exact ends

/-- There is no word where one ends. -/
theorem firstWord_of_ends (ends : Ends rest) : firstWord rest = [] := by
  have none : ∀ c ∈ [], Text.isIdentifierPart c = true := nofun
  exact firstWord_append none ends

/-- One of some words is taken with what it stands for. -/
theorem reads_wordFor_word {words : List (String × α)} (all : ∀ w ∈ words, ∀ c ∈ w.1.toList, Text.isIdentifierPart c = true)
    {w : String × α} (member : w ∈ words) (alone : ∀ v ∈ words, v.1 = w.1 → v = w) (ends : Ends rest) :
    Reads (wordFor words) (w.1.toList ++ rest) (some w.2) rest := by
  have first : firstWord (w.1.toList ++ rest) = w.1.toList := firstWord_append (all w member) ends
  induction words with
  | nil => exact absurd member List.not_mem_nil
  | cons v words ih =>
    by_cases same : v = w
    · exact same ▸ (reads_consumeWord ends).bind (Reads.pure _ _)
    · have other : firstWord (w.1.toList ++ rest) ≠ v.1.toList := by
        rw [first]
        exact fun h => same (alone v List.mem_cons_self (String.toList_injective h).symm)
      refine (reads_consumeWord_firstWord (all v List.mem_cons_self) other).bind ?_
      exact ih (fun u hu => all u (List.mem_cons_of_mem _ hu)) ((List.mem_cons.1 member).resolve_left (Ne.symm same))
        fun u hu => alone u (List.mem_cons_of_mem _ hu)

/-- There is no word where something else starts. -/
theorem firstWord_cons {c : Char} (h : Text.isIdentifierPart c = false) (rest : List Char) : firstWord (c :: rest) = [] :=
  List.takeWhile_cons_of_neg (by rw [h]; exact Bool.false_ne_true)

end Reader

/-! ## Decimal numerals -/

/-- A numeral is taken up to its end, unless a point follows its last one. -/
theorem takeNumeral_whole {cs rest : List Char} (whole : takeNumeral cs = cs) (stop : takeNumeral rest = [])
    (point : rest.head? = some '.' → cs.getLast? ≠ some '.') : takeNumeral (cs ++ rest) = cs := by
  induction cs with
  | nil => exact stop
  | cons c cs ih =>
    rw [takeNumeral] at whole
    split at whole
    · exact absurd whole (List.cons_ne_nil _ _).symm
    · next goes_on =>
      have whole : takeNumeral cs = cs := (List.cons.inj whole).2
      rw [List.cons_append, takeNumeral]
      cases cs with
      | nil =>
        have single : ¬((!isNumeralPart c || c == '.' && (([] : List Char) ++ rest).head? == some '.') = true) := by
          intro h
          simp only [Bool.or_eq_true, Bool.and_eq_true, beq_iff_eq, List.nil_append, not_or, List.head?_nil] at h goes_on
          rcases h with part | ⟨rfl, next⟩
          · exact goes_on.1 part
          · exact point next rfl
        rw [if_neg single, List.nil_append, stop]
      | cons d cs =>
        rw [if_neg (by exact goes_on), ih whole (by simpa using point)]

/-- A decimal numeral, perhaps with underscores. -/
structure DecimalText (cs : List Char) (d : Decimal) : Prop where
  whole : takeNumeral cs = cs
  digits : (dropUnderscores false cs).bind Decimal.read? = some d

/-- A character that is no digit is no numeral. -/
theorem read?_singleton {c : Char} (h : c.isDigit = false) : Decimal.read? [c] = none := by
  by_cases minus : c = '-'
  · subst minus
    rfl
  by_cases plus : c = '+'
  · subst plus
    rfl
  by_cases point : c = '.'
  · subst point
    rfl
  have unsigned : Decimal.readSign [c] = (false, [c]) := by simp [Decimal.readSign, minus, plus]
  have whole : Decimal.readFraction [c] = ([], [c]) := by simp [Decimal.readFraction, point]
  simp [Decimal.read?, unsigned, whole, h]

/-- A numeral has more than one character, or it is a digit. -/
theorem DecimalText.head {cs : List Char} {d : Decimal} (h : DecimalText cs d) :
    ∃ c more, cs = c :: more ∧ (c.isDigit = true ∨ more ≠ []) := by
  match cs, h.digits with
  | [], digits => exact absurd digits (by simp [dropUnderscores, Decimal.read?, Decimal.readSign, Decimal.readFraction])
  | c :: e :: more, _ => exact ⟨c, e :: more, rfl, Or.inr (List.cons_ne_nil _ _)⟩
  | [c], digits =>
    refine ⟨c, [], rfl, Or.inl ?_⟩
    by_contra other
    have none := read?_singleton (Bool.eq_false_iff.2 other)
    by_cases underscore : c = '_'
    · subst underscore
      exact absurd digits (by simp [dropUnderscores])
    · exact absurd digits (by simp [dropUnderscores, underscore, none])

/-- All characters of a numeral may stand in one. -/
theorem isNumeralPart_of_mem_takeNumeral {cs : List Char} : ∀ c ∈ takeNumeral cs, isNumeralPart c = true := by
  induction cs with
  | nil => exact fun _ none => absurd none List.not_mem_nil
  | cons c cs ih =>
    rw [takeNumeral]
    split
    · exact fun _ none => absurd none List.not_mem_nil
    · next goes_on =>
      intro d hd
      rcases List.mem_cons.1 hd with rfl | hd
      · simp only [Bool.or_eq_true, Bool.not_eq_true', not_or] at goes_on
        exact Bool.not_eq_false _ ▸ goes_on.1
      · exact ih d hd

theorem DecimalText.part {cs : List Char} {d : Decimal} (h : DecimalText cs d) : ∀ c ∈ cs, isNumeralPart c = true := by
  intro c hc
  rw [← h.whole] at hc
  exact isNumeralPart_of_mem_takeNumeral c hc

/-- Where a numeral stands, no word does that has a character among its first two that no numeral has. -/
theorem DecimalText.isPrefixOf_eq_false {cs rest : List Char} {d : Decimal} (h : DecimalText cs d) {a b : Char} {word : List Char}
    (digit : a.isDigit = false) (outside : isNumeralPart a = false ∨ isNumeralPart b = false) :
    (a :: b :: word).isPrefixOf (cs ++ rest) = false := by
  obtain ⟨c, more, rfl, long⟩ := h.head
  rw [Bool.eq_false_iff]
  intro found
  obtain ⟨after, text⟩ := List.isPrefixOf_iff_prefix.1 found
  obtain ⟨rfl, behind⟩ := List.cons.inj text
  rcases long with isDigit | long
  · exact Bool.false_ne_true (digit.symm.trans isDigit)
  · obtain ⟨e, more, rfl⟩ := List.exists_cons_of_ne_nil long
    obtain ⟨rfl, -⟩ := List.cons.inj behind
    rcases outside with outside | outside
    · exact Bool.false_ne_true (outside.symm.trans (h.part _ List.mem_cons_self))
    · exact Bool.false_ne_true (outside.symm.trans (h.part _ (List.mem_cons_of_mem _ List.mem_cons_self)))

/-- How a number may be written, with a suffix for its kind or without. -/
inductive NumberText (suffix : Suffix) : Single → List Char → Prop
  | word {w : String × Single} (h : w ∈ numberWords) : NumberText suffix w.2 (w.1.toList ++ suffix.word.toList)
  | decimal {d : Decimal} {cs : List Char} (h : DecimalText cs d) : NumberText suffix (.ofDecimal d) (cs ++ suffix.word.toList)

/-- What may follow a number without belonging to it. -/
structure BehindNumber (cs rest : List Char) : Prop where
  ends : Reader.Ends rest
  stop : takeNumeral rest = []
  /-- Two points behind a number make a range of it. -/
  point : rest.head? = some '.' → cs.getLast? ≠ some '.'

/-- Whether a word does not stand in front of a text, whatever follows the text: another one does, or the text goes on with the word. -/
def avoids (word text : List Char) : Bool :=
  if word.isPrefixOf text then (text.drop word.length).head?.any Text.isIdentifierPart else !text.isPrefixOf word

/-- The words for numbers start with two characters of which one stands in no numeral. -/
theorem numberWords_outside {w : String × Single} (h : w ∈ numberWords) (suffix : Suffix) :
    ∃ a b more, (w.1 ++ suffix.word).toList = a :: b :: more ∧ a.isDigit = false ∧
      (isNumeralPart a = false ∨ isNumeralPart b = false) := by
  unfold numberWords at h
  simp only [List.mem_cons, List.not_mem_nil, or_false] at h
  rw [String.toList_append]
  rcases h with rfl | rfl | rfl | rfl | rfl | rfl <;> exact ⟨_, _, _, rfl, by decide, by decide⟩

namespace Reader

theorem reads_consumeWord_avoids {word : String} {text : List Char} (h : avoids word.toList text = true) (rest : List Char) :
    Reads (consumeWord word) (text ++ rest) false (text ++ rest) := by
  have other : (word.toList.isPrefixOf (text ++ rest) &&
      !((text ++ rest).drop word.toList.length).head?.any Text.isIdentifierPart) = false := by
    unfold avoids at h
    split at h
    · next front =>
      obtain ⟨behind, rfl⟩ := List.isPrefixOf_iff_prefix.1 front
      rw [List.drop_left] at h
      obtain ⟨c, more, rfl⟩ : ∃ c more, behind = c :: more := by
        cases behind with
        | nil => exact absurd h (by simp)
        | cons c more => exact ⟨c, more, rfl⟩
      have part : Text.isIdentifierPart c = true := by simpa using h
      rw [List.append_assoc, List.drop_left]
      simp [part]
    · next apart =>
      rw [Bool.and_eq_false_iff]
      refine Or.inl (Bool.eq_false_iff.2 fun found => ?_)
      rcases List.prefix_or_prefix_of_prefix (List.isPrefixOf_iff_prefix.1 found) (List.prefix_append text rest) with front | front
      · exact apart (List.isPrefixOf_iff_prefix.2 front)
      · rw [List.isPrefixOf_iff_prefix.2 front] at h
        exact absurd h (by decide)
  have found := reads_isWord word (text ++ rest)
  rw [other] at found
  refine found.bind ?_
  rw [if_neg Bool.false_ne_true]
  exact Reads.pure false _

theorem reads_wordFor_avoids {α : Type} {words : List (String × α)} {text : List Char}
    (h : ∀ w ∈ words, avoids w.1.toList text = true) (rest : List Char) : Reads (wordFor words) (text ++ rest) none (text ++ rest) := by
  induction words with
  | nil => exact Reads.pure none _
  | cons w words ih =>
    refine (reads_consumeWord_avoids (h w List.mem_cons_self) rest).bind ?_
    exact ih fun v hv => h v (List.mem_cons_of_mem _ hv)

/-- The words for numbers with a suffix. -/
def suffixed (suffix : Suffix) : List (String × Single) :=
  numberWords.map fun w => (w.1 ++ suffix.word, w.2)

/-- A word for a number is taken with its suffix. -/
theorem reads_suffixed {w : String × Single} (h : w ∈ numberWords) (suffix : Suffix) {rest : List Char} (ends : Ends rest) :
    Reads (wordFor (suffixed suffix)) (w.1.toList ++ suffix.word.toList ++ rest) (some w.2) rest := by
  have apart : ∀ suffix ∈ [Suffix.none, .single, .double], ∀ w ∈ suffixed suffix, ∀ v ∈ suffixed suffix,
      v.1.toList <+: w.1.toList ∨ w.1.toList <+: v.1.toList → v = w := by decide
  have member : (w.1 ++ suffix.word, w.2) ∈ suffixed suffix := List.mem_map_of_mem h
  have found := reads_wordFor member (apart suffix (by cases suffix <;> simp) _ member) ends
  rwa [String.toList_append] at found

/-- It is not taken with another suffix. -/
theorem reads_suffixed_other {w : String × Single} (h : w ∈ numberWords) {suffix : Suffix} {other : Suffix}
    (before : (suffix, other) ∈ [(Suffix.single, Suffix.none), (.double, .none), (.double, .single)]) (rest : List Char) :
    Reads (wordFor (suffixed other)) (w.1.toList ++ suffix.word.toList ++ rest) none
      (w.1.toList ++ suffix.word.toList ++ rest) := by
  have avoided : ∀ pair ∈ [(Suffix.single, Suffix.none), (.double, .none), (.double, .single)], ∀ w ∈ numberWords,
      ∀ v ∈ suffixed pair.2, avoids v.1.toList (w.1.toList ++ pair.1.word.toList) = true := by decide
  exact reads_wordFor_avoids (avoided _ before w h) rest

/-- The suffix of a number. -/
def numberSuffix (x : Single) : Reader (Single × Suffix) := do
  if ← consumeWord Suffix.single.word then return (x, .single)
  else if ← consumeWord Suffix.double.word then return (x, .double)
  else return (x, .none)

/-- A numeral is taken with what its suffix says. -/
theorem reads_number_decimal {d : Decimal} {cs : List Char} (h : DecimalText cs d) {behind rest : List Char}
    (taken : takeNumeral (cs ++ behind) = cs) {suffix : Suffix}
    (kind : Reads (numberSuffix (.ofDecimal d)) behind (.ofDecimal d, suffix) rest) :
    Reads number (cs ++ behind) (.ofDecimal d, suffix) rest := by
  have no_word : ∀ other : Suffix, ∀ v ∈ suffixed other, v.1.toList.isPrefixOf (cs ++ behind) = false := by
    intro other v hv
    obtain ⟨w, hw, rfl⟩ := List.mem_map.1 hv
    obtain ⟨a, b, more, word, digit, outside⟩ := numberWords_outside hw other
    rw [word]
    exact h.isPrefixOf_eq_false digit outside
  refine Reads.bind (a := (none, ())) (Reads.forIn_none ?_) ?_
  · intro other _
    exact (reads_wordFor_none (no_word other)).bind (Reads.pure _ _)
  obtain ⟨ds, digits, value⟩ := Option.bind_eq_some_iff.1 h.digits
  have nonempty : cs ≠ [] := by
    obtain ⟨c, more, rfl, -⟩ := h.head
    exact List.cons_ne_nil c more
  refine (reads_rest _).bind ?_
  dsimp only
  rw [taken, if_neg nonempty, digits]
  dsimp only
  rw [value]
  dsimp only
  refine (reads_advance _ _).bind ?_
  rw [List.drop_left]
  exact kind

/-- A number is taken however it is written. -/
theorem reads_number_text {suffix : Suffix} {x : Single} {cs rest : List Char} (h : NumberText suffix x cs)
    (behind : BehindNumber cs rest) : Reads number (cs ++ rest) (x, suffix) rest := by
  cases h with
  | @word w h =>
    refine Reads.bind (a := (some (w.2, suffix), ())) ?_ (Reads.pure _ rest)
    cases suffix with
    | none =>
      exact Reads.forIn_first ((reads_suffixed h .none behind.ends).bind (Reads.pure _ _))
    | single =>
      refine Reads.forIn_next ((reads_suffixed_other h (by decide) rest).bind (Reads.pure _ _)) ?_
      exact Reads.forIn_first ((reads_suffixed h .single behind.ends).bind (Reads.pure _ _))
    | double =>
      refine Reads.forIn_next ((reads_suffixed_other h (by decide) rest).bind (Reads.pure _ _)) ?_
      refine Reads.forIn_next ((reads_suffixed_other h (by decide) rest).bind (Reads.pure _ _)) ?_
      exact Reads.forIn_first ((reads_suffixed h .double behind.ends).bind (Reads.pure _ _))
  | @decimal d cs h =>
    have letter : ∀ more, takeNumeral ('f' :: more) = [] := fun more => takeNumeral_stop (by simp; decide)
    rw [List.append_assoc]
    cases suffix with
    | none =>
      have point : rest.head? = some '.' → cs.getLast? ≠ some '.' := by simpa [Suffix.word] using behind.point
      refine reads_number_decimal h (takeNumeral_whole h.whole behind.stop point) ?_
      refine (reads_consumeWord_other (suffix_other behind.ends Suffix.noConfusion)).bind ?_
      exact (reads_consumeWord_other (suffix_other behind.ends Suffix.noConfusion)).bind (Reads.pure _ rest)
    | single =>
      refine reads_number_decimal h (takeNumeral_whole h.whole (letter _) (by simp [Suffix.word])) ?_
      exact (reads_consumeWord behind.ends).bind (Reads.pure _ rest)
    | double =>
      refine reads_number_decimal h (takeNumeral_whole h.whole (letter _) (by simp [Suffix.word])) ?_
      refine (reads_consumeWord_other rfl).bind ?_
      exact (reads_consumeWord behind.ends).bind (Reads.pure _ rest)

end Reader

end Notation

end DebugConsole
