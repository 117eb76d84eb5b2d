import DebugConsole.Notation.Lexeme
import DebugConsole.Proofs.Number.Rounding

/-!
# Numerals read back

A numeral is digits, perhaps a point and more digits, perhaps an exponent (`Decimal.Spells`). The reader of numerals takes all of it
and finds the number that it spells, and every numeral that is written for a finite number spells a decimal number that is
rounded to it (`Single.read?_numeral`).
-/

namespace DebugConsole

/-- A property that all characters of a row have, but not the one behind it, holds as far as the row goes. -/
theorem takeWhile_stop {p : Char → Bool} {cs rest : List Char} (all : ∀ c ∈ cs, p c = true)
    (stop : ∀ c ∈ rest.head?, p c = false) :
    (cs ++ rest).takeWhile p = cs := by
  rw [List.takeWhile_append_of_pos all]
  cases rest with
  | nil => exact List.append_nil cs
  | cons c rest =>
    rw [List.takeWhile_cons_of_neg (by rw [stop c rfl]; exact Bool.false_ne_true), List.append_nil]

/-- What is left of such a row is what stands behind it. -/
theorem dropWhile_stop {p : Char → Bool} {cs rest : List Char} (all : ∀ c ∈ cs, p c = true)
    (stop : ∀ c ∈ rest.head?, p c = false) :
    (cs ++ rest).dropWhile p = rest := by
  rw [List.dropWhile_append_of_pos all]
  cases rest with
  | nil => rfl
  | cons c rest => exact List.dropWhile_cons_of_neg (by rw [stop c rfl]; exact Bool.false_ne_true)

namespace Decimal

/-! ## Rows of digits -/

theorem ofDigits_eq (ds : List Char) : ofDigits ds = Nat.ofDigitChars 10 ds 0 :=
  Nat.ofDigitChars_eq_foldl.symm

/-- The digits behind others stand for less by as many powers of ten as there are of them. -/
theorem ofDigits_append (ds es : List Char) : ofDigits (ds ++ es) = 10 ^ es.length * ofDigits ds + ofDigits es := by
  rw [ofDigits_eq, ofDigits_eq, ofDigits_eq, Nat.ofDigitChars_append, Nat.ofDigitChars_eq_ofDigitChars_zero]

theorem ofDigits_toDigits (n : Nat) : ofDigits (Nat.toDigits 10 n) = n := by
  rw [ofDigits_eq, Nat.ofDigitChars_ten_toDigits]

theorem ofDigits_zeros (n : Nat) : ofDigits (List.replicate n '0') = 0 := by
  rw [ofDigits_eq, Nat.ofDigitChars_replicate_zero, Nat.mul_zero]

/-- Whether a row of characters is one of digits. -/
def AllDigits (ds : List Char) : Prop :=
  ∀ c ∈ ds, c.isDigit = true

theorem allDigits_toDigits (n : Nat) : AllDigits (Nat.toDigits 10 n) := fun _ hc =>
  Nat.isDigit_of_mem_toDigits (by decide) (by decide) hc

theorem allDigits_zeros (n : Nat) : AllDigits (List.replicate n '0') := by
  intro c hc
  rw [List.eq_of_mem_replicate hc]
  decide

theorem AllDigits.append {ds es : List Char} (hd : AllDigits ds) (he : AllDigits es) : AllDigits (ds ++ es) := by
  intro c hc
  rcases List.mem_append.mp hc with h | h
  · exact hd c h
  · exact he c h

/-- Taking digits stops behind a row of them. -/
theorem AllDigits.takeWhile {ds tail : List Char} (hd : AllDigits ds) (stop : ∀ c ∈ tail.head?, c.isDigit = false) :
    (ds ++ tail).takeWhile Char.isDigit = ds ∧ (ds ++ tail).dropWhile Char.isDigit = tail :=
  ⟨takeWhile_stop hd stop, dropWhile_stop hd stop⟩

/-! ## The parts of a numeral -/

/-- An exponent starts with its letter. -/
theorem head_of_readExponent? {tail : List Char} {e : Int} (h : readExponent? tail = some e) :
    ∀ c ∈ tail.head?, c = 'e' ∨ c = 'E' := by
  cases tail with
  | nil => exact fun c hc => absurd hc (by simp)
  | cons mark rest =>
    intro c hc
    obtain rfl : mark = c := by simpa using hc
    unfold readExponent? at h
    dsimp only at h
    split at h
    · next good => exact good.1
    · exact absurd h (by simp)

/-- What follows the letter of an exponent is a sign and digits. -/
theorem mem_of_readExponent? {tail : List Char} {e : Int} (h : readExponent? tail = some e) :
    ∀ c ∈ tail, c.isDigit = true ∨ c = 'e' ∨ c = 'E' ∨ c = '+' ∨ c = '-' := by
  cases tail with
  | nil => exact fun c hc => absurd hc (by simp)
  | cons mark rest =>
    have start := head_of_readExponent? h mark rfl
    unfold readExponent? at h
    dsimp only at h
    split at h
    · next good =>
      have digits : ∀ c ∈ (readSign rest).2, c.isDigit = true := List.all_eq_true.mp good.2.2
      intro c hc
      rcases List.mem_cons.mp hc with rfl | hc
      · exact Or.inr (start.elim Or.inl fun h => Or.inr (Or.inl h))
      · unfold readSign at digits
        split at digits
        · rcases List.mem_cons.mp hc with rfl | hc
          · simp
          · exact Or.inl (digits c hc)
        · rcases List.mem_cons.mp hc with rfl | hc
          · simp
          · exact Or.inl (digits c hc)
        · exact Or.inl (digits c hc)
    · exact absurd h (by simp)

/-- How a number is spelled without its sign: digits, perhaps a point and more digits, perhaps an exponent. -/
inductive Spells : List Char → Nat → Int → Prop
  | whole {whole tail : List Char} {e : Int} (digits : AllDigits whole) (nonempty : whole ≠ [])
    (exponent : readExponent? tail = some e) :
    Spells (whole ++ tail) (ofDigits whole) e
  | point {whole fraction tail : List Char} {e : Int} (digits : AllDigits whole) (nonempty : whole ≠ [])
    (more : AllDigits fraction) (exponent : readExponent? tail = some e) :
    Spells (whole ++ '.' :: (fraction ++ tail)) (ofDigits (whole ++ fraction)) (e - fraction.length)

namespace Spells

variable {cs : List Char} {n : Nat} {e : Int}

/-- A numeral starts with a digit. -/
theorem head (h : Spells cs n e) : ∃ d rest, cs = d :: rest ∧ d.isDigit = true := by
  have first : ∀ {whole : List Char} (tail : List Char), AllDigits whole → whole ≠ [] →
      ∃ d rest, whole ++ tail = d :: rest ∧ d.isDigit = true := by
    intro whole tail digits nonempty
    obtain ⟨d, ds, rfl⟩ := List.exists_cons_of_ne_nil nonempty
    exact ⟨d, ds ++ tail, rfl, digits d List.mem_cons_self⟩
  cases h with
  | whole digits nonempty _ => exact first _ digits nonempty
  | point digits nonempty _ _ => exact first _ digits nonempty

/-- The characters of a numeral. -/
theorem mem (h : Spells cs n e) : ∀ c ∈ cs, c.isDigit = true ∨ c = '.' ∨ c = 'e' ∨ c = 'E' ∨ c = '+' ∨ c = '-' := by
  intro c hc
  cases h with
  | whole digits _ exponent =>
    rcases List.mem_append.mp hc with hc | hc
    · exact Or.inl (digits c hc)
    · exact (mem_of_readExponent? exponent c hc).imp_right Or.inr
  | point digits _ more exponent =>
    rcases List.mem_append.mp hc with hc | hc
    · exact Or.inl (digits c hc)
    rcases List.mem_cons.mp hc with hc | hc
    · exact Or.inr (Or.inl hc)
    rcases List.mem_append.mp hc with hc | hc
    · exact Or.inl (more c hc)
    · exact (mem_of_readExponent? exponent c hc).imp_right Or.inr

end Spells

/-- A minus is read as one in front of a digit, and no sign as none. -/
theorem readSign_digit (negative : Bool) {d : Char} (hd : d.isDigit = true) (rest : List Char) :
    readSign ((if negative then ['-'] else []) ++ d :: rest) = (negative, d :: rest) := by
  cases negative with
  | true => rfl
  | false =>
    change readSign (d :: rest) = (false, d :: rest)
    unfold readSign
    split
    · next h => exact absurd (List.cons.inj h).1 (by rintro rfl; exact absurd hd (by decide))
    · next h => exact absurd (List.cons.inj h).1 (by rintro rfl; exact absurd hd (by decide))
    · rfl

/-- An exponent does not start with a digit or a point. -/
theorem head_ne_of_readExponent? {tail : List Char} {e : Int} (h : readExponent? tail = some e) :
    ∀ c ∈ tail.head?, c.isDigit = false ∧ c ≠ '.' := by
  intro c hc
  rcases head_of_readExponent? h c hc with rfl | rfl <;> decide

/-- A numeral is read as the number that it spells. -/
theorem Spells.read? {cs : List Char} {n : Nat} {e : Int} (h : Spells cs n e) (negative : Bool) :
    Decimal.read? ((if negative then ['-'] else []) ++ cs) = some ⟨negative, n, e⟩ := by
  obtain ⟨d, rest, rfl, hd⟩ := h.head
  unfold Decimal.read?
  rw [readSign_digit negative hd]
  dsimp only
  generalize d :: rest = cs at h
  cases h with
  | @whole whole tail e digits nonempty exponent =>
    obtain ⟨taken, left⟩ := digits.takeWhile fun c hc => (head_ne_of_readExponent? exponent c hc).1
    have no_point : readFraction tail = ([], tail) := by
      unfold readFraction
      split
      · next h => exact absurd rfl (head_ne_of_readExponent? exponent '.' (by simp)).2
      · rfl
    rw [taken, left, no_point]
    dsimp only
    rw [if_neg (fun h => nonempty h.1), exponent, List.append_nil, Option.map_some, List.length_nil, Nat.cast_zero, sub_zero]
  | @point whole fraction tail e digits nonempty more exponent =>
    obtain ⟨taken, left⟩ := digits.takeWhile (show ∀ c ∈ ('.' :: (fraction ++ tail)).head?, c.isDigit = false by simp)
    obtain ⟨more_taken, more_left⟩ := more.takeWhile fun c hc => (head_ne_of_readExponent? exponent c hc).1
    have behind_point : readFraction ('.' :: (fraction ++ tail)) = (fraction, tail) := by
      change ((fraction ++ tail).takeWhile Char.isDigit, (fraction ++ tail).dropWhile Char.isDigit) = (fraction, tail)
      rw [more_taken, more_left]
    rw [taken, left, behind_point]
    dsimp only
    rw [if_neg (fun h => nonempty h.1), exponent, Option.map_some]

end Decimal

/-! ## Taking a numeral from a text -/

namespace Notation

open Decimal (Spells)

/-- A character that is no point is taken if it may stand in a numeral. -/
theorem takeNumeral_append {cs : List Char} (h : ∀ c ∈ cs, isNumeralPart c = true ∧ c ≠ '.') (rest : List Char) :
    takeNumeral (cs ++ rest) = cs ++ takeNumeral rest := by
  induction cs with
  | nil => rfl
  | cons c cs ih =>
    obtain ⟨part, no_point⟩ := h c List.mem_cons_self
    have goes_on : ¬((!isNumeralPart c || c == '.' && (cs ++ rest).head? == some '.') = true) := by
      rw [part, beq_eq_false_iff_ne.mpr no_point, Bool.false_and]
      decide
    rw [List.cons_append, takeNumeral, if_neg goes_on, ih fun c hc => h c (List.mem_cons_of_mem _ hc), List.cons_append]

/-- A point is taken unless another one follows. -/
theorem takeNumeral_point {rest : List Char} (h : ∀ c ∈ rest.head?, c ≠ '.') :
    takeNumeral ('.' :: rest) = '.' :: takeNumeral rest := by
  have goes_on : ¬((!isNumeralPart '.' || '.' == '.' && rest.head? == some '.') = true) := by
    have single : (rest.head? == some '.') = false := beq_eq_false_iff_ne.mpr fun h' => h '.' h' rfl
    rw [single]
    decide
  rw [takeNumeral, if_neg goes_on]

/-- Nothing is taken from a text that starts with something else. -/
theorem takeNumeral_stop {rest : List Char} (h : ∀ c ∈ rest.head?, isNumeralPart c = false) : takeNumeral rest = [] := by
  cases rest with
  | nil => rfl
  | cons c rest =>
    rw [takeNumeral, h c rfl]
    rfl

/-- Digits may stand in a numeral, and they are no points. -/
theorem isNumeralPart_of_isDigit {c : Char} (h : c.isDigit = true) : isNumeralPart c = true ∧ c ≠ '.' := by
  refine ⟨by simp [isNumeralPart, h], ?_⟩
  rintro rfl
  exact absurd h (by decide)

/-- The characters of an exponent may stand in a numeral, and they are no points. -/
theorem isNumeralPart_of_readExponent? {tail : List Char} {e : Int} (h : Decimal.readExponent? tail = some e) :
    ∀ c ∈ tail, isNumeralPart c = true ∧ c ≠ '.' := by
  intro c hc
  rcases Decimal.mem_of_readExponent? h c hc with hc | rfl | rfl | rfl | rfl
  · exact isNumeralPart_of_isDigit hc
  all_goals decide

/-- A numeral is taken from a text up to its end, with its sign. -/
theorem takeNumeral_spells {cs : List Char} {n : Nat} {e : Int} (h : Spells cs n e) (negative : Bool) {rest : List Char}
    (stop : ∀ c ∈ rest.head?, isNumeralPart c = false) :
    takeNumeral ((if negative then ['-'] else []) ++ cs ++ rest) = (if negative then ['-'] else []) ++ cs := by
  have sign : ∀ c ∈ (if negative then ['-'] else []), isNumeralPart c = true ∧ c ≠ '.' := by
    intro c hc
    cases negative with
    | true =>
      rw [List.mem_singleton.mp hc]
      decide
    | false => exact absurd hc List.not_mem_nil
  rw [List.append_assoc, takeNumeral_append sign]
  congr 1
  cases h with
  | whole digits _ exponent =>
    rw [List.append_assoc, takeNumeral_append fun c hc => isNumeralPart_of_isDigit (digits c hc),
      takeNumeral_append (isNumeralPart_of_readExponent? exponent), takeNumeral_stop stop, List.append_nil]
  | @point whole fraction tail e digits _ more exponent =>
    have good : ∀ c ∈ fraction ++ tail, isNumeralPart c = true ∧ c ≠ '.' := by
      intro c hc
      rcases List.mem_append.mp hc with hc | hc
      · exact isNumeralPart_of_isDigit (more c hc)
      · exact isNumeralPart_of_readExponent? exponent c hc
    have single : ∀ c ∈ (fraction ++ tail ++ rest).head?, c ≠ '.' := by
      intro c hc
      rcases List.mem_append.mp (List.mem_of_mem_head? hc) with hc' | hc'
      · exact (good c hc').2
      · cases behind : fraction ++ tail with
        | nil =>
          rw [behind] at hc
          rintro rfl
          exact absurd (stop '.' hc) (by decide)
        | cons d ds =>
          rw [behind] at hc good
          obtain rfl : d = c := by simpa using hc
          exact (good d List.mem_cons_self).2
    rw [List.append_assoc, takeNumeral_append fun c hc => isNumeralPart_of_isDigit (digits c hc), List.cons_append,
      takeNumeral_point single, takeNumeral_append good, takeNumeral_stop stop, List.append_nil]

/-- A numeral without underscores is left as it is. -/
theorem dropUnderscores_eq {cs : List Char} (h : '_' ∉ cs) (allowed : Bool) : dropUnderscores allowed cs = some cs := by
  induction cs generalizing allowed with
  | nil => rfl
  | cons c cs ih =>
    have hc : c ≠ '_' := fun hc => h (hc ▸ List.mem_cons_self)
    rw [dropUnderscores, if_neg hc]
    dsimp only
    rw [ih fun hcs => h (List.mem_cons_of_mem _ hcs), Option.map_some]

/-- There are no underscores in a numeral that is spelled plainly. -/
theorem underscore_notMem_spells {cs : List Char} {n : Nat} {e : Int} (h : Spells cs n e) (negative : Bool) :
    '_' ∉ (if negative then ['-'] else []) ++ cs := by
  intro hc
  rcases List.mem_append.mp hc with hc | hc
  · cases negative <;> exact absurd hc (by decide)
  · exact absurd (h.mem '_' hc) (by decide)

end Notation

/-! ## The numerals that are written -/

namespace Decimal

theorem readExponent?_nil : readExponent? [] = some 0 := rfl

/-- An exponent is read as it is written. -/
theorem readExponent?_toDigits (e : Int) :
    readExponent? ('e' :: (if e < 0 then ['-'] else []) ++ Nat.toDigits 10 e.natAbs) = some e := by
  obtain ⟨d, rest, hds⟩ := List.exists_cons_of_ne_nil (Nat.toDigits_ne_nil (b := 10) (n := e.natAbs))
  have digits : AllDigits (d :: rest) := hds ▸ allDigits_toDigits e.natAbs
  have value : ofDigits (d :: rest) = e.natAbs := hds ▸ ofDigits_toDigits e.natAbs
  have sign : readSign ((if e < 0 then ['-'] else []) ++ d :: rest) = (decide (e < 0), d :: rest) := by
    rw [← readSign_digit (decide (e < 0)) (digits d List.mem_cons_self) rest]
    by_cases he : e < 0 <;> simp [he]
  unfold readExponent?
  rw [hds, List.cons_append]
  dsimp only
  rw [sign]
  dsimp only
  rw [if_pos ⟨Or.inl rfl, List.cons_ne_nil d rest, List.all_eq_true.mpr digits⟩, value]
  by_cases he : e < 0
  · rw [decide_eq_true he, if_pos rfl]
    congr 1
    omega
  · rw [decide_eq_false he, if_neg (by decide)]
    congr 1
    omega

section

variable {ds : List Char} (digits : AllDigits ds)
include digits

theorem AllDigits.take (k : Nat) : AllDigits (ds.take k) := fun c hc => digits c (List.mem_of_mem_take hc)

theorem AllDigits.drop (k : Nat) : AllDigits (ds.drop k) := fun c hc => digits c (List.mem_of_mem_drop hc)

/-- Digits with zeros behind them, and a point and a zero behind these. -/
theorem spells_padded (nonempty : ds ≠ []) (k : Nat) :
    Spells (ds ++ List.replicate k '0' ++ ['.', '0']) (ofDigits ds * 10 ^ (k + 1)) (-1) := by
  have spelled := Spells.point (digits.append (allDigits_zeros k)) (List.append_ne_nil_of_left_ne_nil nonempty _) (allDigits_zeros 1)
    (readExponent?_nil)
  have value : ofDigits (ds ++ List.replicate k '0' ++ List.replicate 1 '0') = ofDigits ds * 10 ^ (k + 1) := by
    rw [ofDigits_append, ofDigits_append, ofDigits_zeros, ofDigits_zeros, List.length_replicate, List.length_replicate]
    ring
  rwa [value] at spelled

/-- A point among digits. -/
theorem spells_split {k : Nat} (before : ds.take k ≠ []) :
    Spells (ds.take k ++ '.' :: ds.drop k) (ofDigits ds) (-(ds.length - k : Nat)) := by
  have spelled := Spells.point (digits.take k) before (digits.drop k) readExponent?_nil
  rwa [List.append_nil, List.take_append_drop, List.length_drop, zero_sub] at spelled

/-- A point in front of digits, with zeros between. -/
theorem spells_below_point (k : Nat) :
    Spells ('0' :: '.' :: List.replicate k '0' ++ ds) (ofDigits ds) (-(k + ds.length : Nat)) := by
  have spelled := Spells.point (allDigits_zeros 1) (by decide) ((allDigits_zeros k).append digits) readExponent?_nil
  have value : ofDigits (List.replicate 1 '0' ++ (List.replicate k '0' ++ ds)) = ofDigits ds := by
    rw [ofDigits_append, ofDigits_append, ofDigits_zeros, ofDigits_zeros]
    ring
  rwa [value, List.append_nil, List.length_append, List.length_replicate, zero_sub] at spelled

/-- A point behind the first digit, if there are others, and an exponent. -/
theorem spells_scientific (before : ds.take 1 ≠ []) (e : Int) :
    Spells (ds.take 1 ++ (if ds.length ≤ 1 then [] else '.' :: ds.drop 1) ++ 'e' :: (if e < 0 then ['-'] else []) ++
      Nat.toDigits 10 e.natAbs) (ofDigits ds) (e - (ds.length - 1 : Nat)) := by
  have exponent := readExponent?_toDigits e
  split
  · next single =>
    have all : ds.take 1 = ds := List.take_of_length_le single
    have spelled := Spells.whole (digits.take 1) before exponent
    rw [all] at spelled
    rw [all, Nat.sub_eq_zero_of_le single, Nat.cast_zero, sub_zero]
    simpa only [List.append_nil, List.append_assoc] using spelled
  · have spelled := Spells.point (digits.take 1) before (digits.drop 1) exponent
    rw [List.take_append_drop, List.length_drop] at spelled
    simpa only [List.append_assoc, List.cons_append] using spelled

end

/-- The numeral of a decimal number spells it, up to zeros that are added to its digits. -/
theorem spells_digits (style : NumeralStyle) {d : Decimal} (hd : d.digits ≠ 0) (small : d.exponent ≤ 60) :
    ∃ n e, Spells (style.digits d) n e ∧ Single.ofDecimal ⟨d.negative, n, e⟩ = Single.ofDecimal d := by
  have digits := allDigits_toDigits d.digits
  have value := ofDigits_toDigits d.digits
  have nonempty : 0 < (Nat.toDigits 10 d.digits).length := Nat.length_toDigits_pos
  have plain : ∀ {text e}, Spells text d.digits e → e = d.exponent →
      ∃ n e, Spells text n e ∧ Single.ofDecimal ⟨d.negative, n, e⟩ = Single.ofDecimal d := by
    rintro text e h rfl
    exact ⟨_, _, h, rfl⟩
  unfold NumeralStyle.digits
  dsimp only
  generalize Nat.toDigits 10 d.digits = ds at digits value nonempty
  have take_nonempty : ∀ k, 0 < k → ds.take k ≠ [] := by
    intro k hk h
    have := congrArg List.length h
    rw [List.length_take, List.length_nil] at this
    omega
  split
  · split
    · next whole =>
      -- the one layout that changes the digits: zeros are moved from the exponent to them
      refine ⟨_, _, spells_padded digits (List.ne_nil_of_length_pos nonempty) d.exponent.toNat, ?_⟩
      have shifted := Single.ofDecimal_zeros d.negative hd (show d.exponent.toNat ≤ 60 by omega)
      rw [Int.toNat_of_nonneg whole] at shifted
      rw [value]
      exact shifted
    · split
      · next inside =>
        have spelled := spells_split digits (take_nonempty (ds.length + d.exponent).toNat (by omega))
        exact plain (value ▸ spelled) (by omega)
      · have spelled := spells_below_point digits (-(ds.length + d.exponent)).toNat
        exact plain (value ▸ spelled) (by omega)
  · have spelled := spells_scientific digits (take_nonempty 1 Nat.one_pos) (ds.length + d.exponent - 1)
    exact plain (value ▸ spelled) (by omega)

end Decimal

namespace Single

variable {x : Single}

/-- The decimal number that a finite number is shown by has its sign and reads back as it. -/
theorem shortest_spec (finite : x.magnitude < infinite) (positive : x.magnitude ≠ 0) :
    x.shortest.negative = x.isNegative ∧ x.shortest.digits ≠ 0 ∧ x.shortest.exponent ≤ 39 ∧ ofDecimal x.shortest = x := by
  unfold shortest
  cases found : gridExponents.findSome? fun k => (x.neighbours k).find? fun d => d.digits ≠ 0 && ofDecimal d == x with
  | none =>
    have low : (-149 : ℤ) ≤ 39 := by decide
    exact ⟨rfl, exact_digits_ne_zero positive, low, ofDecimal_exact finite positive⟩
  | some d =>
    obtain ⟨k, hk, hd⟩ := List.exists_of_findSome?_eq_some found
    have reads : d.digits ≠ 0 ∧ ofDecimal d = x := by simpa using List.find?_some hd
    have grid : k ≤ 39 := by
      obtain ⟨i, -, rfl⟩ := List.mem_map.mp hk
      omega
    have parts : d.negative = x.isNegative ∧ d.exponent = k := by
      have member := List.mem_of_find?_eq_some hd
      unfold neighbours at member
      dsimp only at member
      split at member <;> simp only [List.mem_cons, List.not_mem_nil, or_false] at member <;>
        rcases member with rfl | rfl <;> exact ⟨rfl, rfl⟩
    exact ⟨parts.1, reads.1, parts.2 ▸ grid, reads.2⟩

/-- The numeral of a finite number spells a decimal number that is rounded to it. -/
theorem spells_numeral (style : NumeralStyle) (finite : x.magnitude < infinite) :
    ∃ cs n e, style.numeral x = (if x.isNegative then ['-'] else []) ++ cs ∧ Decimal.Spells cs n e ∧
      ofDecimal ⟨x.isNegative, n, e⟩ = x := by
  unfold NumeralStyle.numeral
  have number : x.isNan = false := decide_eq_false (not_lt.mpr finite.le)
  have bounded : x.isInfinite = false := beq_eq_false_iff_ne.mpr finite.ne
  rw [number, bounded, if_neg Bool.false_ne_true, if_neg Bool.false_ne_true]
  by_cases zero : x.magnitude = 0
  · rw [if_pos zero]
    refine ⟨_, _, _, rfl, Decimal.Spells.point (Decimal.allDigits_zeros 1) (by decide) (Decimal.allDigits_zeros 1) rfl, ?_⟩
    change ofMagnitude x.isNegative 0 = x
    rw [← zero, ofMagnitude_magnitude]
  · rw [if_neg zero]
    obtain ⟨sign, digits, small, reads⟩ := shortest_spec finite zero
    obtain ⟨n, e, spelled, same⟩ := Decimal.spells_digits style digits (by omega)
    exact ⟨_, n, e, rfl, spelled, by rw [← sign, same, reads]⟩

end Single

end DebugConsole
