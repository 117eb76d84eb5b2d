import DebugConsole.Notation.Unknown
import DebugConsole.Proofs.Notation.NumberText

/-!
# Numbers of any kind

Where any value may stand, there may be integers with suffixes of their own or in other bases, bytes, and ranges between two numbers.
All of these are taken up to what cannot belong to them (`Reader.reads_anyNumber`, `Reader.reads_numberOrRange`), and nothing is taken
where none of them starts.
-/

namespace DebugConsole

namespace Notation

/-- A sign, which may be left out. -/
inductive Sign : Bool → List Char → Prop
  | none : Sign false []
  | plus : Sign false ['+']
  | minus : Sign true ['-']

/-- A decimal numeral that is an integer, with its sign apart. -/
structure IntegerText (negative : Bool) (sign digits : List Char) : Prop where
  signed : Sign negative sign
  all : ∀ c ∈ digits, (c.isDigit || c == '_') = true
  numeral : ∃ d, DecimalText (sign ++ digits) d

/-- The digits of an integer in another base, which has a letter for its mark. -/
structure BasedText (mark : Char) (base : Nat) (digits : List Char) : Prop where
  based : (mark, base) ∈ [('b', 2), ('o', 8), ('x', 16)]
  nonempty : digits ≠ []
  start : digits.head? ≠ some '_'
  all : ∀ c ∈ digits, c = '_' ∨ ∃ value < base, hexValue? c = some value

/-- How a number of any kind may be written. -/
inductive AnyNumber : List Char → Prop
  | number {suffix : Suffix} {x : Single} {cs : List Char} (h : NumberText suffix x cs) : AnyNumber cs
  /-- An integer with a suffix that it is not too large for. -/
  | integer {negative : Bool} {sign digits : List Char} (h : IntegerText negative sign digits) {kind : String × Nat × Bool}
    (member : kind ∈ Reader.integerSuffixes)
    (fits : Decimal.ofDigits (digits.filter (· != '_')) ≤ Reader.magnitudeLimit kind.2.1 kind.2.2 negative) :
    AnyNumber (sign ++ (digits ++ kind.1.toList))
  /-- An integer in another base, with such a suffix or none. -/
  | based {negative : Bool} {sign digits : List Char} (signed : Sign negative sign) {mark : Char} {base : Nat}
    (h : BasedText mark base digits) {kind : Option (String × Nat × Bool)} (member : ∀ k ∈ kind, k ∈ Reader.integerSuffixes)
    (fits : (digits.filterMap hexValue?).foldl (fun n d => base * n + d) 0 ≤
      kind.elim (Reader.magnitudeLimit 64 negative negative) fun k => Reader.magnitudeLimit k.2.1 k.2.2 negative) :
    AnyNumber (sign ++ '0' :: mark :: (digits ++ kind.elim [] (·.1.toList)))
  | byte {cs : List Char} (h : ByteLiteral cs) : AnyNumber cs

/-- What follows a sign is found behind it. -/
theorem readSign_append {negative : Bool} {sign : List Char} (h : Sign negative sign) {c : Char} (other : c ≠ '+' ∧ c ≠ '-')
    (rest : List Char) : Decimal.readSign (sign ++ c :: rest) = (negative, c :: rest) := by
  cases h with
  | none => simp [Decimal.readSign, other.1, other.2]
  | plus => rfl
  | minus => rfl

/-- A numeral goes on behind its sign. -/
theorem readSign_snd {p : Char → Bool} {cs : List Char} (nonempty : cs ≠ []) (all : ∀ c ∈ cs, p c = true) (rest : List Char) :
    ∃ ds, (Decimal.readSign (cs ++ rest)).2 = ds ++ rest ∧ ∀ c ∈ ds, p c = true := by
  obtain ⟨c, more, rfl⟩ := List.exists_cons_of_ne_nil nonempty
  have others : ∀ d ∈ more, p d = true := fun d hd => all d (List.mem_cons_of_mem _ hd)
  by_cases minus : c = '-'
  · subst minus
    exact ⟨more, rfl, others⟩
  by_cases plus : c = '+'
  · subst plus
    exact ⟨more, rfl, others⟩
  exact ⟨c :: more, by simp [Decimal.readSign, minus, plus], all⟩

/-- The marks of integers in other bases. -/
def baseMarks : List (List Char) :=
  [['0', 'b'], ['0', 'o'], ['0', 'x']]

/-- A decimal numeral is not marked as an integer in another base. -/
theorem unmarked {cs rest : List Char} (nonempty : cs ≠ []) (part : ∀ c ∈ cs, isNumeralPart c = true)
    (stop : ∀ c ∈ rest.head?, c ∉ ['0', 'b', 'o', 'x']) :
    baseMarks.any (·.isPrefixOf (Decimal.readSign (cs ++ rest)).2) = false := by
  obtain ⟨ds, behind, part⟩ := readSign_snd nonempty part rest
  have letters : ∀ c ∈ ['b', 'o', 'x'], isNumeralPart c = false := by decide
  rw [behind, List.any_eq_false]
  intro mark member found
  obtain ⟨letter, hletter, rfl⟩ : ∃ letter ∈ ['b', 'o', 'x'], mark = ['0', letter] := by
    simp only [baseMarks, List.mem_cons, List.not_mem_nil, or_false] at member
    rcases member with rfl | rfl | rfl <;> exact ⟨_, by simp, rfl⟩
  obtain ⟨after, text⟩ := List.isPrefixOf_iff_prefix.1 found
  match ds, part with
  | [], _ => exact stop '0' (by rw [← List.nil_append rest, ← text]; rfl) (by simp)
  | [d], _ =>
    have next : rest = letter :: after := (List.cons.inj text).2.symm
    exact stop letter (by rw [next]; rfl) (List.mem_cons_of_mem _ hletter)
  | d :: e :: ds, part =>
    obtain rfl : letter = e := (List.cons.inj (List.cons.inj text).2).1
    exact Bool.false_ne_true ((letters letter hletter).symm.trans (part letter (by simp)))

namespace Reader

variable {negative : Bool} {cs rest : List Char}

/-- What an integer may be at most, by its suffix. -/
def suffixLimit (negative : Bool) (limit : Option Nat) : Option (Nat × Bool) → Option Nat
  | some (bits, signed) => some (magnitudeLimit bits signed negative)
  | none => limit

/-- A suffix is taken if the integer is not too large for it. -/
theorem reads_integerSuffix {value : Nat} {limit : Option Nat} {kind : Option (Nat × Bool)}
    (found : Reads (wordFor integerSuffixes) cs kind rest) (fits : (suffixLimit negative limit kind).any (· < value) = false) :
    Reads (integerSuffix negative value limit) cs () rest := by
  have enough : Reads (if (suffixLimit negative limit kind).any (· < value) then fail .integerTooLarge else pure ()) rest () rest := by
    rw [fits]
    exact Reads.pure () rest
  refine found.bind ?_
  cases kind with
  | none => exact enough
  | some kind => exact enough

/-- Where no word comes next, there is no suffix to take. -/
theorem reads_no_suffixWord (ends : Ends rest) : Reads (wordFor integerSuffixes) rest none rest := by
  have nothing := firstWord_of_ends ends
  have words : ∀ w ∈ integerSuffixes, (∀ c ∈ w.1.toList, Text.isIdentifierPart c = true) ∧ [] ≠ w.1.toList := by simp [integerSuffixes]
  refine reads_wordFor_firstWord (fun w hw => (words w hw).1) fun w hw => ?_
  rw [nothing]
  exact (words w hw).2

/-- A suffix is a word, and no other one starts like it. -/
theorem reads_suffixWord {kind : String × Nat × Bool} (member : kind ∈ integerSuffixes) (ends : Ends rest) :
    Reads (wordFor integerSuffixes) (kind.1.toList ++ rest) (some kind.2) rest := by
  have apart : ∀ w ∈ integerSuffixes, ∀ v ∈ integerSuffixes, v.1.toList <+: w.1.toList ∨ w.1.toList <+: v.1.toList → v = w := by
    decide
  exact reads_wordFor member (apart kind member) ends

/-- The suffixes of integers start with one of two letters. -/
theorem integerSuffix_head {kind : String × Nat × Bool} (member : kind ∈ integerSuffixes) (rest : List Char) :
    ∃ c more, kind.1.toList ++ rest = c :: more ∧ c ∈ ['i', 'u'] := by
  have all : ∀ kind ∈ integerSuffixes, ∃ c ∈ ['i', 'u'], kind.1.toList.head? = some c := by decide
  obtain ⟨c, letter, head⟩ := all kind member
  obtain ⟨more, word⟩ := List.head?_eq_some_iff.1 head
  exact ⟨c, more ++ rest, by rw [word]; rfl, letter⟩

/-- Digits in some base are parts of words. -/
theorem isIdentifierPart_of_hexValue? {c : Char} (h : (hexValue? c).isSome = true) : Text.isIdentifierPart c = true := by
  have small : c.toNat < 128 := by
    by_contra large
    have outside : ¬c.isDigit = true ∧ ¬('a' ≤ c ∧ c ≤ 'f') ∧ ¬('A' ≤ c ∧ c ≤ 'F') := by
      simp only [Char.isDigit, Char.le_def, UInt32.le_iff_toNat_le, Bool.and_eq_true, decide_eq_true_eq, ge_iff_le] at large ⊢
      change ¬c.val.toNat < 128 at large
      refine ⟨?_, ?_, ?_⟩ <;> rintro ⟨-, below⟩ <;> exact large (Nat.lt_of_le_of_lt below (by decide))
    rw [hexValue?, if_neg outside.1, if_neg outside.2.1, if_neg outside.2.2] at h
    exact Bool.false_ne_true h
  rw [Text.isIdentifierPart_ascii small]
  exact Text.ascii_forall (p := fun c => (hexValue? c).isSome = true → (c.isAlphanum || c == '_') = true) (by decide) small h

/-! ## Numerals -/

/-- Behind a decimal number there is a suffix for integers if the number is an integer. -/
def numeralSuffix (negative : Bool) (unsigned : List Char) : Reader Unit := do
  let digits := unsigned.takeWhile fun c => c.isDigit || c == '_'
  if digits.length = unsigned.length - (← Reader.rest).length then
    integerSuffix negative (Decimal.ofDigits (digits.filter (· != '_'))) none

/-- A numeral that is not marked as being in another base is a decimal number. -/
theorem reads_numeral_unmarked {unsigned mid : List Char} {x : Single × Suffix}
    (split : Decimal.readSign cs = (negative, unsigned)) (decimal : baseMarks.any (·.isPrefixOf unsigned) = false)
    (taken : Reads number cs x mid) (kind : Reads (numeralSuffix negative unsigned) mid () rest) : Reads numeral cs () rest := by
  refine (reads_rest cs).bind ?_
  rw [split]
  dsimp only
  have plain : ¬([['0', 'b'], ['0', 'o'], ['0', 'x']].any fun mark => mark.isPrefixOf unsigned) = true :=
    Bool.eq_false_iff.1 decimal
  rw [if_neg plain]
  exact taken.bind kind

/-- A number with digits or with a sign is taken as a numeral. -/
theorem reads_numeral_number {suffix : Suffix} {x : Single} (h : NumberText suffix x cs) (behind : BehindNumber cs rest) :
    Reads numeral (cs ++ rest) () rest := by
  have decimal : baseMarks.any (·.isPrefixOf (Decimal.readSign (cs ++ rest)).2) = false := by
    cases h with
    | @word w member =>
      unfold numberWords at member
      simp only [List.mem_cons, List.not_mem_nil, or_false] at member
      rcases member with rfl | rfl | rfl | rfl | rfl | rfl <;> rfl
    | @decimal d cs h =>
      obtain ⟨c, more, text, -⟩ := h.head
      rw [List.append_assoc]
      refine unmarked (text ▸ List.cons_ne_nil c more) h.part ?_
      intro d hd
      have letters : ∀ d ∈ ['0', 'b', 'o', 'x'], Text.isIdentifierPart d = true ∧ d ≠ 'f' := by simp
      intro among
      cases suffix with
      | none =>
        have ends := behind.ends
        unfold Ends at ends
        rw [show rest.head? = some d from hd, Option.any_some, (letters d among).1] at ends
        exact Bool.false_ne_true ends.symm
      | single => exact (letters d among).2 (by simpa [Suffix.word] using hd.symm)
      | double => exact (letters d among).2 (by simpa [Suffix.word] using hd.symm)
  obtain ⟨negative, unsigned, split⟩ : ∃ negative unsigned, Decimal.readSign (cs ++ rest) = (negative, unsigned) := ⟨_, _, rfl⟩
  rw [split] at decimal
  refine reads_numeral_unmarked split decimal (reads_number_text h behind) ((reads_rest rest).bind ?_)
  split
  · exact reads_integerSuffix (reads_no_suffixWord behind.ends) rfl
  · exact Reads.pure () rest

/-- The letters that suffixes of integers start with belong to no decimal number. -/
theorem suffixLetter_outside : ∀ c ∈ ['i', 'u'], isNumeralPart c = false ∧ c ∉ ['0', 'b', 'o', 'x'] ∧ c ≠ '.' ∧ c ≠ 'f' ∧
    (c.isDigit || c == '_') = false := by
  decide

/-- There are digits behind the sign of an integer. -/
theorem digits_cons {sign digits : List Char} (h : IntegerText negative sign digits) :
    ∃ c ds, digits = c :: ds ∧ c ≠ '+' ∧ c ≠ '-' := by
  obtain ⟨signed, all, d, numeral⟩ := h
  cases digits with
  | cons c ds =>
    have first := all c List.mem_cons_self
    refine ⟨c, ds, rfl, ?_, ?_⟩ <;> rintro rfl <;> exact absurd first (by decide)
  | nil =>
    obtain ⟨c, more, text, long⟩ := numeral.head
    cases signed with
    | none => exact absurd text (by simp)
    | plus =>
      obtain ⟨rfl, rfl⟩ := List.cons.inj text
      exact absurd long (by decide)
    | minus =>
      obtain ⟨rfl, rfl⟩ := List.cons.inj text
      exact absurd long (by decide)

/-- A decimal integer is taken as a number up to its suffix. -/
theorem reads_number_integer {sign digits : List Char} (h : IntegerText negative sign digits) {letter : Char}
    (among : letter ∈ ['i', 'u']) (more : List Char) :
    ∃ x, Reads number (sign ++ digits ++ letter :: more) x (letter :: more) := by
  obtain ⟨stop, -, point, float, -⟩ := suffixLetter_outside letter among
  obtain ⟨d, numeral⟩ := h.numeral
  have other : ∀ suffix : Suffix, suffix ≠ .none → suffix.word.toList.isPrefixOf (letter :: more) = false := by
    have no_float : (letter :: more).head? ≠ some 'f' := by simpa using float
    intro suffix some_suffix
    cases suffix with
    | none => exact absurd rfl some_suffix
    | single => exact isPrefixOf_eq_false_of_head no_float _
    | double => exact isPrefixOf_eq_false_of_head no_float _
  have stopped : takeNumeral (letter :: more) = [] := takeNumeral_stop (by simpa using stop)
  refine ⟨(.ofDecimal d, .none), reads_number_decimal numeral (takeNumeral_whole numeral.whole stopped (by simp [point])) ?_⟩
  refine (reads_consumeWord_other (other .single nofun)).bind ?_
  exact (reads_consumeWord_other (other .double nofun)).bind (Reads.pure _ _)

/-- A decimal integer is taken with its suffix. -/
theorem reads_numeral_integer {sign digits : List Char} (h : IntegerText negative sign digits) {kind : String × Nat × Bool}
    (member : kind ∈ integerSuffixes)
    (fits : Decimal.ofDigits (digits.filter (· != '_')) ≤ magnitudeLimit kind.2.1 kind.2.2 negative) (ends : Ends rest) :
    Reads numeral (sign ++ (digits ++ kind.1.toList) ++ rest) () rest := by
  obtain ⟨letter, more, behind, among⟩ := integerSuffix_head member rest
  obtain ⟨-, unmarked_letter, -, -, digit⟩ := suffixLetter_outside letter among
  obtain ⟨x, number_taken⟩ := reads_number_integer h among more
  obtain ⟨c, ds, rfl, unsigned⟩ := digits_cons h
  obtain ⟨signed, all, d, numeral⟩ := h
  have text : sign ++ (c :: ds ++ kind.1.toList) ++ rest = sign ++ c :: ds ++ letter :: more := by
    rw [← behind]
    simp only [List.append_assoc]
  have split : Decimal.readSign (sign ++ c :: ds ++ letter :: more) = (negative, c :: ds ++ letter :: more) := by
    rw [List.append_assoc]
    exact readSign_append signed unsigned _
  have whole : (sign ++ c :: ds) ≠ [] := by simp
  have behind_stop : ∀ c ∈ (letter :: more).head?, c ∉ ['0', 'b', 'o', 'x'] := by simpa using unmarked_letter
  have plain := unmarked whole numeral.part behind_stop
  rw [split] at plain
  have taken : (c :: ds ++ letter :: more).takeWhile (fun c => c.isDigit || c == '_') = c :: ds :=
    takeWhile_stop all (by simpa using digit)
  rw [text]
  refine reads_numeral_unmarked split plain number_taken ((reads_rest _).bind ?_)
  rw [taken, if_pos (by rw [List.length_append, Nat.add_sub_cancel]), ← behind]
  refine reads_integerSuffix (reads_suffixWord member ends) ?_
  simpa [suffixLimit] using fits

/-- The base is known from its mark. -/
theorem reads_base {mark : Char} {base : Nat} (based : (mark, base) ∈ [('b', 2), ('o', 8), ('x', 16)]) (rest : List Char) :
    Reads base? ('0' :: mark :: rest) (some base) rest := by
  simp only [List.mem_cons, Prod.mk.injEq, List.not_mem_nil, or_false] at based
  rcases based with ⟨rfl, rfl⟩ | ⟨rfl, rfl⟩ | ⟨rfl, rfl⟩
  · exact (reads_consume ['0', 'b'] rest).bind (Reads.pure _ rest)
  · refine (reads_consume_other rfl).bind ?_
    exact (reads_consume ['0', 'o'] rest).bind (Reads.pure _ rest)
  · refine (reads_consume_other rfl).bind ((reads_consume_other rfl).bind ?_)
    exact (reads_consume ['0', 'x'] rest).bind (Reads.pure _ rest)

/-- No digit in any base stands behind the digits: there is a suffix, or the number ends. -/
theorem hexValue?_stop {kind : Option (String × Nat × Bool)} (member : ∀ k ∈ kind, k ∈ integerSuffixes) (ends : Ends rest) :
    ∀ c ∈ (kind.elim [] (·.1.toList) ++ rest).head?, ((hexValue? c).isSome || c == '_') = false := by
  intro c hc
  cases kind with
  | some kind =>
    obtain ⟨letter, more, text, among⟩ := integerSuffix_head (member kind rfl) rest
    have letters : ∀ c ∈ ['i', 'u'], ((hexValue? c).isSome || c == '_') = false := by decide
    obtain rfl : letter = c := by simpa [text] using hc
    exact letters letter among
  | none =>
    have outside : Text.isIdentifierPart c = false := by
      unfold Ends at ends
      rwa [show rest.head? = some c from hc] at ends
    rw [Bool.eq_false_iff]
    intro digit
    rcases Bool.or_eq_true _ _ ▸ digit with value | underscore
    · exact Bool.false_ne_true (outside.symm.trans (isIdentifierPart_of_hexValue? value))
    · have part : Text.isIdentifierPart '_' = true := by simp
      exact Bool.false_ne_true (outside.symm.trans (beq_iff_eq.1 underscore ▸ part))

/-- The digits of an integer in another base are taken with its suffix. -/
theorem reads_basedDigits {mark : Char} {base : Nat} {digits : List Char} (h : BasedText mark base digits)
    {kind : Option (String × Nat × Bool)} (member : ∀ k ∈ kind, k ∈ integerSuffixes)
    (fits : (digits.filterMap hexValue?).foldl (fun n d => base * n + d) 0 ≤
      kind.elim (magnitudeLimit 64 negative negative) fun k => magnitudeLimit k.2.1 k.2.2 negative) (ends : Ends rest) :
    Reads (basedDigits negative base) (digits ++ (kind.elim [] (·.1.toList) ++ rest)) () rest := by
  have all : ∀ c ∈ digits, ((hexValue? c).isSome || c == '_') = true := by
    intro c hc
    rcases h.all c hc with rfl | ⟨value, -, found⟩
    · rfl
    · rw [found]
      rfl
  have fine : digits.find? (fun c => (hexValue? c).any (base ≤ ·)) = none := by
    rw [List.find?_eq_none]
    intro c hc
    rcases h.all c hc with rfl | ⟨value, small, found⟩
    · exact Bool.false_ne_true
    · rw [found]
      simpa using small
  refine (reads_rest _).bind ?_
  rw [takeWhile_stop all (hexValue?_stop member ends), if_neg h.nonempty, if_neg h.start, fine]
  refine (reads_advance _ _).bind ?_
  rw [List.drop_left]
  cases kind with
  | some kind =>
    refine reads_integerSuffix (reads_suffixWord (member kind rfl) ends) ?_
    simpa [suffixLimit] using fits
  | none =>
    refine reads_integerSuffix (reads_no_suffixWord ends) ?_
    simpa [suffixLimit] using fits

/-- An integer in another base is taken as a numeral. -/
theorem reads_numeral_based {sign digits : List Char} (signed : Sign negative sign) {mark : Char} {base : Nat}
    (h : BasedText mark base digits) {kind : Option (String × Nat × Bool)} (member : ∀ k ∈ kind, k ∈ integerSuffixes)
    (fits : (digits.filterMap hexValue?).foldl (fun n d => base * n + d) 0 ≤
      kind.elim (magnitudeLimit 64 negative negative) fun k => magnitudeLimit k.2.1 k.2.2 negative) (ends : Ends rest) :
    Reads numeral (sign ++ '0' :: mark :: (digits ++ kind.elim [] (·.1.toList)) ++ rest) () rest := by
  have marked : ∀ behind : List Char, [['0', 'b'], ['0', 'o'], ['0', 'x']].any (·.isPrefixOf ('0' :: mark :: behind)) = true := by
    intro behind
    have based := h.based
    simp only [List.mem_cons, Prod.mk.injEq, List.not_mem_nil, or_false] at based
    rcases based with ⟨rfl, -⟩ | ⟨rfl, -⟩ | ⟨rfl, -⟩ <;> rfl
  rw [List.append_assoc, List.cons_append, List.cons_append, List.append_assoc]
  refine (reads_rest _).bind ?_
  rw [readSign_append signed (by decide)]
  dsimp only
  rw [if_pos (marked _)]
  refine (reads_advanceTo sign _).bind ((reads_base h.based _).bind ?_)
  exact reads_basedDigits h member fits ends

end Reader

/-- Whether a number in digits may start with a character. -/
def startsNumeral (c : Char) : Bool :=
  c.isDigit || c == '+' || c == '-' || c == '.'

/-- A text that starts like a number in digits and not like a range. -/
structure NumeralStart (cs : List Char) : Prop where
  exists_cons : ∃ c more, cs = c :: more ∧ startsNumeral c = true
  single : ['.', '.'].isPrefixOf cs = false

/-- No numeral starts with the letter of an exponent or with an underscore. -/
theorem read?_letter {c : Char} (h : c ∈ ['e', 'E', '_']) (cs : List Char) :
    (dropUnderscores false (c :: cs)).bind Decimal.read? = none := by
  have unread : ∀ ds, Decimal.read? ('e' :: ds) = none ∧ Decimal.read? ('E' :: ds) = none := by
    intro ds
    constructor <;> simp [Decimal.read?, Decimal.readSign, Decimal.readFraction]
  simp only [List.mem_cons, List.not_mem_nil, or_false] at h
  rcases h with rfl | rfl | rfl
  · cases others : dropUnderscores true cs <;> simp [dropUnderscores, others, unread]
  · cases others : dropUnderscores true cs <;> simp [dropUnderscores, others, unread]
  · simp [dropUnderscores]

/-- A numeral starts with a digit, a sign or a point. -/
theorem DecimalText.start {cs : List Char} {d : Decimal} (h : DecimalText cs d) (rest : List Char) : NumeralStart (cs ++ rest) := by
  obtain ⟨c, more, rfl, long⟩ := h.head
  refine ⟨⟨c, more ++ rest, rfl, ?_⟩, ?_⟩
  · have part := h.part c List.mem_cons_self
    by_contra other
    simp only [startsNumeral, isNumeralPart, Bool.or_eq_true, beq_iff_eq, not_or] at part other
    have letter : c ∈ ['e', 'E', '_'] := by
      simp only [List.mem_cons, List.not_mem_nil, or_false]
      tauto
    exact absurd h.digits (by simp [read?_letter letter])
  · rw [Bool.eq_false_iff]
    intro points
    obtain ⟨after, text⟩ := List.isPrefixOf_iff_prefix.1 points
    obtain ⟨rfl, behind⟩ := List.cons.inj text
    obtain ⟨e, more, rfl⟩ := List.exists_cons_of_ne_nil (long.resolve_left (by decide))
    obtain ⟨rfl, -⟩ := List.cons.inj behind
    exact absurd h.whole (by simp [takeNumeral, isNumeralPart])

/-- So does every number that is not a word or a byte. -/
theorem numeralStart_cons {c : Char} (start : startsNumeral c = true) (other : c ≠ '.') (rest : List Char) :
    NumeralStart (c :: rest) := by
  exact ⟨⟨c, rest, rfl, start⟩, Reader.isPrefixOf_eq_false_of_head (by simpa using other) ['.']⟩

theorem Sign.numeralStart {negative : Bool} {sign : List Char} (h : Sign negative sign) (rest : List Char) :
    NumeralStart (sign ++ '0' :: rest) := by
  cases h <;> exact numeralStart_cons (by decide) (by decide) _

/-- The words for numbers that have no sign. -/
def unsignedWords : List (String × Unit) :=
  ["inf", "inff32", "inff64", "NaN", "NaNf32", "NaNf64"].map (·, ())

/-- A word for a number has a sign or it has none. -/
theorem numberWord_start {w : String × Single} (h : w ∈ numberWords) (suffix : Suffix) :
    (w.1 ++ suffix.word, ()) ∈ unsignedWords ∨ ∃ sign ∈ ['+', '-'], w.1.toList.head? = some sign := by
  have known : ∀ suffix ∈ [Suffix.none, .single, .double], ∀ w ∈ numberWords,
      (w.1 ++ suffix.word, ()) ∈ unsignedWords ∨ ∃ sign ∈ ['+', '-'], w.1.toList.head? = some sign := by decide
  exact known suffix (by cases suffix <;> simp) w h

/-- A number is such a word, or it starts like a number in digits. -/
theorem NumberText.start {suffix : Suffix} {x : Single} {cs : List Char} (h : NumberText suffix x cs) :
    cs ∈ unsignedWords.map (·.1.toList) ∨ ∀ rest, NumeralStart (cs ++ rest) := by
  cases h with
  | @word w member =>
    rcases numberWord_start member suffix with found | ⟨sign, among, head⟩
    · rw [← String.toList_append]
      exact Or.inl (List.mem_map_of_mem found)
    · have signs : ∀ sign ∈ ['+', '-'], startsNumeral sign = true ∧ sign ≠ '.' := by decide
      obtain ⟨more, word⟩ := List.head?_eq_some_iff.1 head
      rw [word]
      exact Or.inr fun _ => numeralStart_cons (signs sign among).1 (signs sign among).2 _
  | @decimal d cs h =>
    refine Or.inr fun rest => ?_
    rw [List.append_assoc]
    exact h.start _

theorem IntegerText.start {negative : Bool} {sign digits : List Char} (h : IntegerText negative sign digits)
    (kind rest : List Char) : NumeralStart (sign ++ (digits ++ kind) ++ rest) := by
  obtain ⟨d, decimal⟩ := h.numeral
  have start := decimal.start (kind ++ rest)
  rw [List.append_assoc] at start
  rwa [List.append_assoc, List.append_assoc]

theorem Sign.based_start {negative : Bool} {sign : List Char} (h : Sign negative sign) (digits rest : List Char) :
    NumeralStart (sign ++ '0' :: digits ++ rest) := by
  rw [List.append_assoc]
  exact h.numeralStart _

/-- A number of any kind is a word, or it starts like a byte or like a number in digits. -/
theorem AnyNumber.start {cs : List Char} (h : AnyNumber cs) :
    cs ∈ unsignedWords.map (·.1.toList) ∨ (∃ more, cs = 'b' :: '\'' :: more) ∨ ∀ rest, NumeralStart (cs ++ rest) := by
  cases h with
  | number h => exact h.start.imp_right Or.inr
  | integer h _ _ => exact Or.inr (Or.inr fun rest => h.start _ rest)
  | based signed _ _ _ => exact Or.inr (Or.inr fun rest => signed.based_start _ rest)
  | byte h => cases h <;> exact Or.inr (Or.inl ⟨_, rfl⟩)

/-- The characters that a number of any kind starts with: the one of a numeral, or the letter of a word or a byte. -/
structure NumberStart (c : Char) (more : List Char) : Prop where
  first : (startsNumeral c || c ∈ ['i', 'N', 'b']) = true
  /-- A word that starts like this one is not the word for a missing value. -/
  second : c = 'N' → more.head? = some 'a'

theorem AnyNumber.head {cs : List Char} (h : AnyNumber cs) : ∃ c more, cs = c :: more ∧ NumberStart c more := by
  rcases h.start with word | ⟨more, rfl⟩ | numeral
  · simp only [unsignedWords, List.map_cons, List.map_nil, List.mem_cons, List.not_mem_nil, or_false] at word
    rcases word with rfl | rfl | rfl | rfl | rfl | rfl
    · exact ⟨'i', _, rfl, rfl, nofun⟩
    · exact ⟨'i', _, rfl, rfl, nofun⟩
    · exact ⟨'i', _, rfl, rfl, nofun⟩
    · exact ⟨'N', _, rfl, rfl, fun _ => rfl⟩
    · exact ⟨'N', _, rfl, rfl, fun _ => rfl⟩
    · exact ⟨'N', _, rfl, rfl, fun _ => rfl⟩
  · exact ⟨'b', _, rfl, rfl, nofun⟩
  · obtain ⟨⟨c, more, text, start⟩, -⟩ := numeral []
    rw [List.append_nil] at text
    refine ⟨c, more, text, by rw [start, Bool.true_or], ?_⟩
    rintro rfl
    exact absurd start (by decide)

namespace Reader

variable {cs rest : List Char}

/-- Takes a number that is no word. -/
def wordlessNumber : Reader Bool := do
  let cs ← Reader.rest
  if ['b', '\''].isPrefixOf cs then
    byte
    return true
  else if cs.head?.any startsNumeral && !List.isPrefixOf ['.', '.'] cs then
    numeral
    return true
  else return false

theorem anyNumber_eq :
    anyNumber = (do
      if (← wordFor unsignedWords).isSome then return true
      wordlessNumber) := rfl

/-- A number that is no word is taken where no word stands. -/
theorem reads_anyNumber_wordless {found : Bool} (none : Reads (wordFor unsignedWords) cs none cs)
    (h : Reads wordlessNumber cs found rest) : Reads anyNumber cs found rest := by
  rw [anyNumber_eq]
  exact none.bind h

/-- A number in digits is taken as a number of any kind. -/
theorem reads_anyNumber_numeral (start : NumeralStart cs) (h : Reads numeral cs () rest) : Reads anyNumber cs true rest := by
  obtain ⟨⟨c, more, rfl, first⟩, single⟩ := start
  have differs : ∀ d ∈ ['i', 'N', 'b'], ∀ tail, (d :: tail).isPrefixOf (c :: more) = false := by
    have others : ∀ c ∈ ['i', 'N', 'b'], startsNumeral c = false := by decide
    intro d hd tail
    refine isPrefixOf_eq_false_of_head ?_ tail
    rintro ⟨⟩
    exact Bool.false_ne_true ((others c hd).symm.trans first)
  have no_word : ∀ w ∈ unsignedWords, w.1.toList.isPrefixOf (c :: more) = false := by
    have heads : ∀ w ∈ unsignedWords, ∃ d ∈ ['i', 'N', 'b'], w.1.toList.head? = some d := by decide
    intro w hw
    obtain ⟨d, letter, head⟩ := heads w hw
    obtain ⟨tail, word⟩ := List.head?_eq_some_iff.1 head
    exact word ▸ differs d letter tail
  have no_byte : ['b', '\''].isPrefixOf (c :: more) = false := differs 'b' (by simp) ['\'']
  refine reads_anyNumber_wordless (reads_wordFor_none no_word) ((reads_rest _).bind ?_)
  rw [no_byte, single, List.head?_cons, Option.any_some, first]
  exact Reads.bind h (Reads.pure true rest)

/-- A byte is taken as a number of any kind. -/
theorem reads_anyNumber_byte (h : ByteLiteral cs) (rest : List Char) : Reads anyNumber (cs ++ rest) true rest := by
  obtain ⟨more, rfl⟩ : ∃ more, cs = 'b' :: '\'' :: more := by
    cases h <;> exact ⟨_, rfl⟩
  have no_word : ∀ w ∈ unsignedWords, w.1.toList.isPrefixOf ('b' :: '\'' :: (more ++ rest)) = false := by
    intro w hw
    simp only [unsignedWords, List.map_cons, List.map_nil, List.mem_cons, List.not_mem_nil, or_false] at hw
    rcases hw with rfl | rfl | rfl | rfl | rfl | rfl <;> rfl
  refine reads_anyNumber_wordless (reads_wordFor_none no_word) ((reads_rest _).bind ?_)
  exact (reads_byte h rest).bind (Reads.pure true rest)

/-- No number is taken where none can start. -/
theorem reads_anyNumber_none (word : firstWord cs ∉ unsignedWords.map (·.1.toList)) (byte : ['b', '\''].isPrefixOf cs = false)
    (numeral : (cs.head?.any startsNumeral && !List.isPrefixOf ['.', '.'] cs) = false) : Reads anyNumber cs false cs := by
  have parts : ∀ w ∈ unsignedWords, ∀ c ∈ w.1.toList, Text.isIdentifierPart c = true := by simp [unsignedWords]
  have no_word : ∀ w ∈ unsignedWords, firstWord cs ≠ w.1.toList := fun w hw same => word (same ▸ List.mem_map_of_mem hw)
  refine reads_anyNumber_wordless (reads_wordFor_firstWord parts no_word) ((reads_rest cs).bind ?_)
  rw [byte, numeral]
  exact Reads.pure false cs

/-- A number of any kind is taken however it is written. -/
theorem reads_anyNumber (h : AnyNumber cs) (behind : BehindNumber cs rest) : Reads anyNumber (cs ++ rest) true rest := by
  cases h with
  | @number suffix x cs h =>
    rcases h.start with word | start
    · have parts : ∀ w ∈ unsignedWords, (∀ c ∈ w.1.toList, Text.isIdentifierPart c = true) ∧
          ∀ v ∈ unsignedWords, v.1 = w.1 → v = w := by simp [unsignedWords]
      obtain ⟨w, found, rfl⟩ := List.mem_map.1 word
      rw [anyNumber_eq]
      exact (reads_wordFor_word (fun w hw => (parts w hw).1) found (parts w found).2 behind.ends).bind (Reads.pure true rest)
    · exact reads_anyNumber_numeral (start rest) (reads_numeral_number h behind)
  | integer h member fits => exact reads_anyNumber_numeral (h.start _ rest) (reads_numeral_integer h member fits behind.ends)
  | based signed h member fits =>
    exact reads_anyNumber_numeral (signed.based_start _ rest) (reads_numeral_based signed h member fits behind.ends)
  | byte h => exact reads_anyNumber_byte h rest

/-! ## Ranges -/

end Reader

/-- A number of any kind, or a range between two of them of which either may be left out. The last one has to be there if it belongs to
the range. -/
inductive NumberOrRange : List Char → Prop
  | number {cs : List Char} (h : AnyNumber cs) : NumberOrRange cs
  | range {first last : List Char} (hf : first = [] ∨ AnyNumber first) (point : first.getLast? ≠ some '.')
    (hl : last = [] ∨ AnyNumber last) : NumberOrRange (first ++ ('.' :: '.' :: last))
  | closed {first last : List Char} (hf : first = [] ∨ AnyNumber first) (point : first.getLast? ≠ some '.') (hl : AnyNumber last) :
    NumberOrRange (first ++ ('.' :: '.' :: '=' :: last))

/-- A range starts with its first number or with its mark. -/
theorem NumberOrRange.head {cs : List Char} (h : NumberOrRange cs) : ∃ c more, cs = c :: more ∧ NumberStart c more := by
  have optional : ∀ {first : List Char}, first = [] ∨ AnyNumber first → ∀ behind,
      ∃ c more, first ++ '.' :: behind = c :: more ∧ NumberStart c more := by
    rintro first (rfl | h) behind
    · exact ⟨'.', behind, rfl, rfl, nofun⟩
    · obtain ⟨c, more, rfl, start⟩ := h.head
      refine ⟨c, more ++ '.' :: behind, rfl, start.first, fun letter => ?_⟩
      have second := start.second letter
      cases more with
      | nil => exact absurd second (by simp)
      | cons d more => exact second
  cases h with
  | number h => exact h.head
  | range hf _ _ => exact optional hf _
  | closed hf _ _ => exact optional hf _

namespace Reader

variable {cs rest : List Char}

/-- What follows a value follows a number. -/
theorem behindNumber_follows (h : Follows rest) (cs : List Char) : BehindNumber cs rest := by
  have outside := h.head_not (p := isNumeralPart) (by decide)
  refine ⟨h.ends, ?_, ?_⟩
  · obtain ⟨c, more, rfl, -⟩ := h.head
    exact takeNumeral_stop outside
  · intro point
    exact absurd (outside '.' point) (by decide)

/-- So does the mark of a range behind its first number. -/
theorem behindNumber_range (point : cs.getLast? ≠ some '.') (more : List Char) : BehindNumber cs ('.' :: '.' :: more) where
  ends := by
    have outside : Text.isIdentifierPart '.' = false := by simp
    exact ends_cons outside _
  stop := by simp [takeNumeral]
  point := fun _ => point

/-- A text that starts like nothing that a number or a range starts like. -/
structure NumberLess (cs : List Char) : Prop where
  word : firstWord cs ∉ unsignedWords.map (·.1.toList)
  byte : ['b', '\''].isPrefixOf cs = false
  numeral : cs.head?.any startsNumeral = false

theorem NumberLess.reads_anyNumber (h : NumberLess cs) : Reads anyNumber cs false cs :=
  reads_anyNumber_none h.word h.byte (by rw [h.numeral, Bool.false_and])

/-- There is no number in what follows a value. -/
theorem numberLess_follows (h : Follows rest) : NumberLess rest := by
  have nothing := firstWord_of_ends h.ends
  have outside := h.head_not (p := fun c => startsNumeral c || c == 'b') (by decide)
  obtain ⟨c, more, rfl, -⟩ := h.head
  obtain ⟨numeral, byte⟩ := Bool.or_eq_false_iff.1 (outside c rfl)
  refine ⟨?_, ?_, numeral⟩
  · rw [nothing]
    decide
  · exact isPrefixOf_eq_false_of_head (by simpa using byte) ['\'']

/-- There is a number at the mark of a range only behind the mark. -/
theorem reads_anyNumber_range (more : List Char) : Reads anyNumber ('.' :: '.' :: more) false ('.' :: '.' :: more) := by
  have outside : Text.isIdentifierPart '.' = false := by simp
  refine reads_anyNumber_none ?_ rfl rfl
  rw [firstWord_cons outside]
  decide

/-- A number may be missing. -/
theorem reads_anyNumber_optional (h : cs = [] ∨ AnyNumber cs) (behind : BehindNumber cs rest) (none : Reads anyNumber rest false rest) :
    ∃ found, Reads anyNumber (cs ++ rest) found rest := by
  rcases h with rfl | h
  · exact ⟨false, none⟩
  · exact ⟨true, reads_anyNumber h behind⟩

/-- A number or a range is taken however it is written. -/
theorem reads_numberOrRange (h : NumberOrRange cs) (behind : Follows rest) : Reads numberOrRange (cs ++ rest) true rest := by
  have nothing := (numberLess_follows behind).reads_anyNumber
  have no_points := behind.head_not (p := (· == '.')) (by decide)
  have apart : ∀ more : List Char, ('.' :: more).isPrefixOf rest = false := by
    refine isPrefixOf_eq_false_of_head fun point => ?_
    exact absurd (no_points '.' point) (by decide)
  cases h with
  | number h =>
    refine (reads_anyNumber h (behindNumber_follows behind _)).bind ?_
    exact (reads_consume_other (apart _)).bind ((reads_consume_other (apart _)).bind (Reads.pure true rest))
  | @range first last hf point hl =>
    have unclosed : ['.', '.', '='].isPrefixOf ('.' :: '.' :: (last ++ rest)) = false := by
      have no_sign := behind.head_not (p := (· == '=')) (by decide)
      have differs : ∀ c ∈ (last ++ rest).head?, c ≠ '=' := by
        intro c hc
        rcases hl with rfl | hl
        · exact beq_eq_false_iff_ne.1 (no_sign c hc)
        · obtain ⟨d, more, rfl, start⟩ := hl.head
          obtain rfl : d = c := by simpa using hc
          rintro rfl
          exact absurd start.first (by decide)
      cases text : last ++ rest with
      | nil => rfl
      | cons c more =>
        rw [text] at differs
        have other : ('=' == c) = false := beq_eq_false_iff_ne.2 (Ne.symm (differs c rfl))
        simp [List.isPrefixOf, other]
    obtain ⟨started, read⟩ := reads_anyNumber_optional hf (behindNumber_range point (last ++ rest)) (reads_anyNumber_range _)
    obtain ⟨ended, read'⟩ := reads_anyNumber_optional hl (behindNumber_follows behind last) nothing
    rw [List.append_assoc]
    refine read.bind ((reads_consume_other unclosed).bind ((reads_consume ['.', '.'] _).bind ?_))
    exact read'.bind (Reads.pure true rest)
  | @closed first last hf point hl =>
    obtain ⟨started, read⟩ := reads_anyNumber_optional hf (behindNumber_range point ('=' :: (last ++ rest))) (reads_anyNumber_range _)
    rw [List.append_assoc]
    refine read.bind ((reads_consume ['.', '.', '='] _).bind ?_)
    refine (reads_anyNumber hl (behindNumber_follows behind last)).bind ?_
    exact Reads.pure true rest

/-- Nothing is taken where neither a number nor a range starts. -/
theorem reads_numberOrRange_none (h : NumberLess cs) : Reads numberOrRange cs false cs := by
  have apart : ∀ more : List Char, ('.' :: more).isPrefixOf cs = false := by
    refine isPrefixOf_eq_false_of_head fun point => ?_
    have outside := h.numeral
    rw [point] at outside
    exact absurd outside (by decide)
  refine h.reads_anyNumber.bind ?_
  exact (reads_consume_other (apart _)).bind ((reads_consume_other (apart _)).bind (Reads.pure false cs))

end Reader

end Notation

end DebugConsole
