import DebugConsole.Proofs.Notation.Reads
import DebugConsole.Proofs.Number.Numeral
import DebugConsole.Text.Quoted

/-!
# Names and quoted texts read back

A name is taken up to a character that no name holds. A quoted text is read character by character: whatever stands for a character
between the quotes, short escape, code point or the character itself, is read as that character, so every text is read as it was
before it was quoted (`Reader.reads_text`).
-/

namespace DebugConsole

namespace Notation

/-! ## Names -/

/-- A name that needs no mark. -/
def IsName (name : List Char) : Prop :=
  name.head?.any Text.isIdentifierStart = true ∧ name.all Text.isIdentifierPart = true

instance (name : List Char) : Decidable (IsName name) :=
  inferInstanceAs (Decidable (_ ∧ _))

/-- A letter of the English alphabet or an underscore. -/
def isLetter (c : Char) : Bool :=
  decide (c.toNat < 128) && (c.isAlpha || c == '_')

/-- A word of letters is a name. -/
theorem isName_of_letters {word : List Char} (nonempty : word ≠ []) (letters : ∀ c ∈ word, isLetter c = true) : IsName word := by
  have start : ∀ c ∈ word, Text.isIdentifierStart c = true := by
    intro c hc
    obtain ⟨small, letter⟩ := Bool.and_eq_true_iff.1 (letters c hc)
    rw [Text.isIdentifierStart_ascii (of_decide_eq_true small)]
    exact letter
  refine ⟨?_, List.all_eq_true.2 fun c hc => Text.isIdentifierPart_of_isIdentifierStart (start c hc)⟩
  obtain ⟨c, more, rfl⟩ := List.exists_cons_of_ne_nil nonempty
  exact start c List.mem_cons_self

/-- What may follow a name without belonging to it. -/
def EndsName (rest : List Char) : Prop :=
  ∃ c more, rest = c :: more ∧ isRawPart c = false ∧ c ≠ '"' ∧ c ≠ '\'' ∧ c ≠ '#'

theorem endsName_colon (rest : List Char) : EndsName (':' :: rest) :=
  ⟨':', rest, rfl, by simp [isRawPart], by decide, by decide, by decide⟩

theorem endsName_open (rest : List Char) : EndsName ('(' :: rest) :=
  ⟨'(', rest, rfl, by simp [isRawPart], by decide, by decide, by decide⟩

/-- What ends a name belongs to no raw name. -/
theorem EndsName.head_raw {rest : List Char} (h : EndsName rest) : ∀ c ∈ rest.head?, isRawPart c = false := by
  obtain ⟨c, more, rfl, raw, -⟩ := h
  intro d hd
  obtain rfl : c = d := by simpa using hd
  exact raw

/-- What ends a name belongs to no name. -/
theorem EndsName.head_part {rest : List Char} (h : EndsName rest) : ∀ c ∈ rest.head?, Text.isIdentifierPart c = false := by
  intro c hc
  exact isIdentifierPart_of_not_isRawPart (h.head_raw c hc)

/-- The marks of texts and bytes hold characters that stand in no name. -/
theorem mark_stop : ∀ mark ∈ "r#".toList :: literalMarks,
    ∃ q more, mark.dropWhile Text.isIdentifierPart = q :: more ∧ (q = '"' ∨ q = '\'' ∨ q = '#') := by
  have checked : ("r#".toList :: literalMarks).all (fun mark => (mark.dropWhile Text.isIdentifierPart).head?.any fun q =>
      q == '"' || q == '\'' || q == '#') = true := by simp [literalMarks]
  intro mark hmark
  have := List.all_eq_true.mp checked mark hmark
  cases stop : mark.dropWhile Text.isIdentifierPart with
  | nil => rw [stop] at this; exact absurd this (by decide)
  | cons q more =>
    rw [stop] at this
    simp only [List.head?_cons, Option.any_some, Bool.or_eq_true, beq_iff_eq] at this
    exact ⟨q, more, rfl, or_assoc.mp this⟩

/-- A name does not start like a text. -/
theorem isPrefixOf_mark_eq_false {name rest mark : List Char} (hname : IsName name) (hrest : EndsName rest)
    (hmark : mark ∈ "r#".toList :: literalMarks) : mark.isPrefixOf (name ++ rest) = false := by
  obtain ⟨q, tail, stop, special⟩ := mark_stop mark hmark
  have right : (name ++ rest).dropWhile Text.isIdentifierPart = rest :=
    dropWhile_stop (List.all_eq_true.mp hname.2) hrest.head_part
  obtain ⟨c, more, rfl, -, quote, single, sign⟩ := hrest
  rw [Bool.eq_false_iff]
  intro h
  obtain ⟨after, hafter⟩ := List.isPrefixOf_iff_prefix.mp h
  -- the first character that stands in no name is the same on both sides
  have left : (mark ++ after).dropWhile Text.isIdentifierPart = q :: tail ++ after := by
    rw [List.dropWhile_append, stop]
    rfl
  rw [hafter, right] at left
  obtain rfl : c = q := (List.cons.inj left).1
  rcases special with h | h | h
  · exact quote h
  · exact single h
  · exact sign h

/-- A name is found at the front of a text if something follows that ends it. -/
theorem name?_append {name rest : List Char} (hname : IsName name) (hrest : EndsName rest) :
    name? (name ++ rest) = .ok (0, name) := by
  have marks : literalMarks.any (·.isPrefixOf (name ++ rest)) = false := by
    rw [List.any_eq_false]
    intro mark hmark
    rw [isPrefixOf_mark_eq_false hname hrest (List.mem_cons_of_mem _ hmark)]
    exact Bool.false_ne_true
  have unmarked : "r#".toList.isPrefixOf (name ++ rest) = false := isPrefixOf_mark_eq_false hname hrest List.mem_cons_self
  have parts : ∀ d ∈ name, Text.isIdentifierPart d = true := List.all_eq_true.mp hname.2
  have taken : (name ++ rest).takeWhile Text.isIdentifierPart = name := takeWhile_stop parts hrest.head_part
  have taken_raw : (name ++ rest).takeWhile isRawPart = name :=
    takeWhile_stop (fun d hd => isRawPart_of_isIdentifierPart (parts d hd)) hrest.head_raw
  cases name with
  | nil => exact absurd hname.1 (by decide)
  | cons first others =>
    have start : Text.isIdentifierStart first = true := hname.1
    unfold name?
    rw [List.cons_append] at *
    dsimp only
    rw [start, marks, unmarked, taken, taken_raw]
    simp

/-! ## Escapes -/

/-- The digits of a number in base sixteen are read as it. -/
theorem hexNumber?_toDigits (n : Nat) : hexNumber? (Nat.toDigits 16 n) = some n := by
  have digit : ∀ d < 16, hexValue? d.digitChar = some d := by decide
  induction n using Nat.strongRecOn with
  | ind n ih =>
    by_cases small : n < 16
    · rw [Nat.toDigits_of_lt_base small]
      unfold hexNumber?
      rw [List.foldlM_cons, digit n small]
      simp
    · have before : hexNumber? (Nat.toDigits 16 (n / 16)) = some (n / 16) := ih (n / 16) (by omega)
      rw [Nat.toDigits_of_base_le (by decide) (by omega)]
      unfold hexNumber? at before ⊢
      rw [List.foldlM_append, before]
      simp only [Option.bind_eq_bind, Option.bind_some, List.foldlM_cons, List.foldlM_nil, digit (n % 16) (by omega), Option.map_some]
      simp only [Option.pure_def, Option.some.injEq]
      omega

/-- No digit is a brace. -/
theorem brace_ne_of_mem_toDigits {n : Nat} : ∀ c ∈ Nat.toDigits 16 n, (c != '}') = true := by
  have digit : ∀ d < 16, (d.digitChar != '}') = true := by decide
  induction n using Nat.strongRecOn with
  | ind n ih =>
    intro c hc
    by_cases small : n < 16
    · rw [Nat.toDigits_of_lt_base small, List.mem_singleton] at hc
      rw [hc]
      exact digit n small
    · rw [Nat.toDigits_of_base_le (by decide) (by omega)] at hc
      rcases List.mem_append.mp hc with hc | hc
      · exact ih (n / 16) (by omega) c hc
      · rw [List.mem_singleton.mp hc]
        exact digit (n % 16) (by omega)

/-- A code point has six digits at most. -/
theorem length_toDigits_codePoint (c : Char) : (Nat.toDigits 16 c.toNat).length ≤ 6 := by
  rw [Nat.length_toDigits_le_iff (by decide) (by decide)]
  have : c.toNat < 0x110000 := by
    rcases c.valid with h | h
    · exact lt_trans h (by decide)
    · exact h.2
  omega

/-- Digits in braces are taken up to the brace behind them. -/
theorem takeWhile_braced {ds : List Char} (inside : ∀ d ∈ ds, (d != '}') = true) (few : ds.length ≤ 6) (rest : List Char) :
    ((ds ++ '}' :: rest).take 6).takeWhile (· != '}') = ds := by
  rw [List.take_append, List.take_of_length_le few]
  refine takeWhile_stop inside ?_
  intro d hd
  cases left : 6 - ds.length with
  | zero => rw [left] at hd; exact absurd hd (by simp)
  | succ k =>
    rw [left] at hd
    obtain rfl : '}' = d := by simpa using hd
    rfl

/-- The escape of a code point stands for its character. -/
theorem escape?_codePoint (c : Char) (rest : List Char) :
    escape? .text ('u' :: '{' :: (Nat.toDigits 16 c.toNat ++ '}' :: rest)) = .ok (c, rest) := by
  have taken := takeWhile_braced brace_ne_of_mem_toDigits (length_toDigits_codePoint c) rest
  have char : charOf? c.toNat = some c := by
    have valid : c.toNat.isValidChar := c.valid
    unfold charOf?
    rw [if_pos valid, Char.ofNat_toNat]
  simp only [escape?, taken, hexNumber?_toDigits, List.drop_left, if_neg Nat.toDigits_ne_nil, char]

/-! ## Quoted texts -/

section

variable {place : EscapePlace} {c : Char} {cs after text rest : List Char}

/-- A character without a meaning of its own stands for itself. -/
theorem quoted?_plain (quote : c ≠ '"') (backslash : c ≠ '\\') (h : quoted? place cs = .ok (text, rest)) :
    quoted? place (c :: cs) = .ok (c :: text, rest) := by
  unfold quoted?
  split
  · next heq => exact absurd heq (List.cons_ne_nil c cs)
  · next heq => exact absurd (List.cons.inj heq).1 quote
  · next heq => exact absurd (List.cons.inj heq).1 backslash
  · next heq =>
    obtain ⟨rfl, rfl⟩ := List.cons.inj heq
    rw [h]

/-- An escape stands for its character. -/
theorem quoted?_escape (line : nextLine? cs = none) (escape : escape? place cs = .ok (c, after))
    (shorter : after.length < cs.length) (h : quoted? place after = .ok (text, rest)) :
    quoted? place ('\\' :: cs) = .ok (c :: text, rest) := by
  rw [quoted?]
  simp only [line, escape, shorter, if_true, h, List.cons_append, List.nil_append]

/-- A character is read from whatever stands for it in a quoted text. -/
theorem quoted?_quoteEscape (style : QuoteStyle) (c : Char) (h : quoted? .text cs = .ok (text, rest)) :
    quoted? .text (style.escape c ++ cs) = .ok (c :: text, rest) := by
  unfold QuoteStyle.escape
  split
  · next hc => exact hc ▸ quoted?_escape rfl rfl (Nat.lt_succ_self _) h
  split
  · next hc => exact hc ▸ quoted?_escape rfl rfl (Nat.lt_succ_self _) h
  split
  · next hc => exact hc ▸ quoted?_escape rfl rfl (Nat.lt_succ_self _) h
  split
  · next hc => exact hc ▸ quoted?_escape rfl rfl (Nat.lt_succ_self _) h
  split
  · next hc =>
    rcases hc with rfl | rfl | ⟨rfl, -⟩ <;> exact quoted?_escape rfl rfl (Nat.lt_succ_self _) h
  · next special =>
    rw [not_or, not_or] at special
    split
    · have shorter : cs.length < ('u' :: '{' :: (Nat.toDigits 16 c.toNat ++ '}' :: cs)).length := by
        simp only [List.length_cons, List.length_append]
        omega
      have escaped := quoted?_escape rfl (escape?_codePoint c cs) shorter h
      unfold QuoteStyle.codePoint
      simpa only [List.cons_append, List.append_assoc, List.nil_append] using escaped
    · exact quoted?_plain special.2.1 special.1 h

/-- A quoted text is read as the text that was quoted. -/
theorem quoted?_flatMap (style : QuoteStyle) (text rest : List Char) :
    quoted? .text (text.flatMap style.escape ++ '"' :: rest) = .ok (text, rest) := by
  induction text with
  | nil => rw [List.flatMap_nil, List.nil_append, quoted?]
  | cons c text ih =>
    rw [List.flatMap_cons, List.append_assoc]
    exact quoted?_quoteEscape style c ih

end

namespace Reader

/-- A name is taken up to what ends it. -/
theorem reads_name {word : String} {rest : List Char} (hword : IsName word.toList) (hrest : EndsName rest) :
    Reads name (word.toList ++ rest) word rest := by
  refine (reads_rest _).bind ?_
  rw [name?_append hword hrest]
  refine (reads_advance word.toList.length _).bind ?_
  rw [List.drop_left]
  have same : String.ofList word.toList = word := String.ofList_toList
  rw [same]
  exact Reads.pure word rest

theorem reads_advanceTo (piece after : List Char) : Reads (advanceTo after) (piece ++ after) () after := by
  refine (reads_rest _).bind ?_
  have left : (piece ++ after).drop ((piece ++ after).length - after.length) = after := by
    rw [List.length_append, Nat.add_sub_cancel, List.drop_left]
  have step := reads_advance ((piece ++ after).length - after.length) (piece ++ after)
  rwa [left] at step

/-- A text is read as it was before it was quoted. -/
theorem reads_text (style : QuoteStyle) (s : String) (rest : List Char) :
    Reads text ((style.quote s).toList ++ rest) s rest := by
  have quoted : (style.quote s).toList ++ rest = ['"'] ++ (s.toList.flatMap style.escape ++ '"' :: rest) := by
    unfold QuoteStyle.quote
    rw [String.toList_ofList, List.cons_append, List.cons_append, List.append_assoc]
    rfl
  rw [quoted]
  refine (reads_consume ['"'] _).bind ((reads_rest _).bind ?_)
  rw [quoted?_flatMap]
  have piece := reads_advanceTo (s.toList.flatMap style.escape ++ ['"']) rest
  rw [List.append_assoc] at piece
  refine Reads.bind piece ?_
  have same : String.ofList s.toList = s := String.ofList_toList
  rw [same]
  exact Reads.pure s rest

end Reader

end Notation

end DebugConsole
