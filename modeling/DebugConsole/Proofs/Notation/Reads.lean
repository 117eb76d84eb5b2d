import DebugConsole.Notation.Structure
import DebugConsole.Proofs.Text.Identifier

/-!
# What a reader takes from a text

`Reads r cs value rest` says that the reader `r` finds `value` at the front of the text `cs` and leaves `rest`, whatever was read
before. A reader that is made of others reads what they read, one after the other (`Reads.bind`), so a statement about a reader is
put together along its definition. Here are the steps that all readers are made of.
-/

namespace DebugConsole

namespace Notation

/-- What holds of all characters in a list is decided by going through the list, and not through all characters that there are. -/
instance decidableForallMem (p : Char → Prop) [DecidablePred p] (cs : List Char) : Decidable (∀ c ∈ cs, p c) :=
  List.decidableBAll p cs

instance decidableExistsMem (p : Char → Prop) [DecidablePred p] (cs : List Char) : Decidable (∃ c ∈ cs, p c) :=
  List.decidableBEx p cs

/-- The parts of a name may stand in a raw name too. -/
theorem isRawPart_of_isIdentifierPart {c : Char} (h : Text.isIdentifierPart c = true) : isRawPart c = true := by
  unfold isRawPart
  rw [h, Bool.or_true]

theorem isIdentifierPart_of_not_isRawPart {c : Char} (h : isRawPart c = false) : Text.isIdentifierPart c = false :=
  Bool.eq_false_iff.2 fun part => Bool.false_ne_true (h.symm.trans (isRawPart_of_isIdentifierPart part))

theorem isIdentifierStart_of_not_isRawPart {c : Char} (h : isRawPart c = false) : Text.isIdentifierStart c = false :=
  Bool.eq_false_iff.2 fun start =>
    Bool.false_ne_true ((isIdentifierPart_of_not_isRawPart h).symm.trans (Text.isIdentifierPart_of_isIdentifierStart start))

namespace Reader

variable {α β : Type}

/-- A reader takes a value from the front of a text and leaves the rest. -/
def Reads (r : Reader α) (cs : List Char) (value : α) (rest : List Char) : Prop :=
  ∀ before, ∃ after, r ⟨before, cs⟩ = .ok (value, ⟨after, rest⟩)

variable {cs rest : List Char}

theorem Reads.pure (a : α) (cs : List Char) : Reads (pure a) cs a cs := fun before => ⟨before, rfl⟩

/-- Two readers one after the other. -/
theorem Reads.bind {r : Reader α} {f : α → Reader β} {mid : List Char} {a : α} {b : β} (first : Reads r cs a mid)
    (second : Reads (f a) mid b rest) : Reads (r >>= f) cs b rest := by
  intro before
  obtain ⟨between, hr⟩ := first before
  obtain ⟨after, hf⟩ := second between
  refine ⟨after, ?_⟩
  change (r ⟨before, cs⟩ >>= fun x => f x.1 x.2) = _
  rw [hr]
  exact hf

/-- What has to be there is there, and the reader goes on. -/
theorem Reads.require {r : Reader Bool} {stop next : Reader β} {mid : List Char} {b : β} (found : Reads r cs true mid)
    (second : Reads next mid b rest) : Reads (r >>= fun here => if !here then stop else next) cs b rest :=
  found.bind second

/-- A value that is changed after it was read. -/
theorem Reads.map {r : Reader α} {a : α} (f : α → β) (h : Reads r cs a rest) :
    Reads (do return f (← r)) cs (f a) rest :=
  h.bind (Reads.pure (f a) rest)

/-! ## Single steps -/

theorem reads_rest (cs : List Char) : Reads Reader.rest cs cs cs := fun before => ⟨before, rfl⟩

theorem reads_advance (n : Nat) (cs : List Char) : Reads (advance n) cs () (cs.drop n) := fun _ => ⟨cs, rfl⟩

theorem reads_peek (cs : List Char) : Reads peek? cs cs.head? cs :=
  (reads_rest cs).bind (Reads.pure _ cs)

/-- A piece of text is taken where it stands. -/
theorem reads_consume (piece rest : List Char) : Reads (consume piece) (piece ++ rest) true rest := by
  refine (reads_rest _).bind ?_
  rw [if_pos (List.isPrefixOf_iff_prefix.mpr (List.prefix_append piece rest))]
  refine (reads_advance piece.length _).bind ?_
  rw [List.drop_left]
  exact Reads.pure true rest

/-- A piece of text does not stand where another character comes next. -/
theorem isPrefixOf_eq_false_of_head {c : Char} (other : cs.head? ≠ some c) (more : List Char) :
    (c :: more).isPrefixOf cs = false := by
  rw [Bool.eq_false_iff]
  intro found
  obtain ⟨after, text⟩ := List.isPrefixOf_iff_prefix.1 found
  rw [← text] at other
  exact other rfl

/-- A piece of text is not taken where it does not stand. -/
theorem reads_consume_other {piece : List Char} (h : piece.isPrefixOf cs = false) : Reads (consume piece) cs false cs := by
  refine (reads_rest _).bind ?_
  rw [if_neg (by rw [h]; exact Bool.false_ne_true)]
  exact Reads.pure false cs

theorem reads_expect (c : Char) (fault : Fault) (rest : List Char) : Reads (expect c fault) (c :: rest) () rest :=
  (reads_consume [c] rest).bind (Reads.pure () rest)

/-! ## Spaces and commas -/

/-- A text that starts with something else than a space or a comment. -/
def Starts (cs : List Char) : Prop :=
  ∃ c rest, cs = c :: rest ∧ isSpace c = false ∧ c ≠ '/'

/-- The characters that are skipped as spaces. -/
def spaceCharacters : List Char :=
  [' ', '\t', '\n', '\r', '\x0b', '\x0c', '\u0085', '\u200e', '\u200f', '\u2028', '\u2029']

theorem isSpace_iff (c : Char) : isSpace c = true ↔ c ∈ spaceCharacters := by
  unfold isSpace spaceCharacters
  simp only [Bool.or_eq_true, beq_iff_eq, List.mem_cons, List.not_mem_nil, or_false, or_assoc]

/-- No name holds a space or a slash. -/
theorem isRawPart_space : ∀ c ∈ '/' :: spaceCharacters, isRawPart c = false := by
  decide +kernel

/-- A character with a property that no space and no slash has. -/
theorem starts_cons {p : Char → Bool} (outside : ('/' :: spaceCharacters).any p = false) {c : Char} (h : p c = true)
    (rest : List Char) : Starts (c :: rest) := by
  have not_among : c ∉ '/' :: spaceCharacters := fun hc => List.any_eq_false.mp outside c hc h
  refine ⟨c, rest, rfl, ?_, ?_⟩
  · rw [Bool.eq_false_iff]
    exact fun space => not_among (List.mem_cons_of_mem _ ((isSpace_iff c).mp space))
  · rintro rfl
    exact not_among List.mem_cons_self

theorem Starts.append (h : Starts cs) (more : List Char) : Starts (cs ++ more) := by
  obtain ⟨c, rest, rfl, space, slash⟩ := h
  exact ⟨c, rest ++ more, rfl, space, slash⟩

/-- There is no space to drop where something else starts. -/
theorem Starts.dropWhile (h : Starts cs) : cs.dropWhile isSpace = cs := by
  obtain ⟨c, rest, rfl, space, -⟩ := h
  exact List.dropWhile_cons_of_neg (by rw [space]; exact Bool.false_ne_true)

/-- A single space in front of it is all that there is to drop. -/
theorem Starts.dropWhile_space (h : Starts cs) : (' ' :: cs).dropWhile isSpace = cs := by
  rw [List.dropWhile_cons_of_pos (by decide), h.dropWhile]

/-- Spaces are skipped up to where something else starts. -/
theorem reads_spaces (h : Starts (cs.dropWhile isSpace)) : Reads spaces cs () (cs.dropWhile isSpace) := by
  obtain ⟨c, rest, hc, -, slash⟩ := h
  intro before
  refine ⟨cs, ?_⟩
  have skipped : skipSpaces cs = .ok ⟨cs, cs.dropWhile isSpace⟩ := by
    unfold skipSpaces
    split
    · next h => exact absurd (List.cons.inj (hc.symm.trans h)).1 slash
    · next h => exact absurd (List.cons.inj (hc.symm.trans h)).1 slash
    · next h => exact absurd (List.cons.inj (hc.symm.trans h)).1 slash
    · next h => exact absurd (List.cons.inj (hc.symm.trans h)).1 slash
    · rfl
  unfold spaces
  rw [skipped]
  rfl

/-- There are no spaces at the end of a text. -/
theorem reads_spaces_nil : Reads spaces [] () [] := by
  intro before
  refine ⟨[], ?_⟩
  unfold spaces
  rw [skipSpaces]
  rfl

/-- No spaces are skipped where something else starts. -/
theorem reads_no_spaces (h : Starts cs) : Reads spaces cs () cs := by
  have skipped : Reads spaces cs () (cs.dropWhile isSpace) := reads_spaces (by rw [h.dropWhile]; exact h)
  rwa [h.dropWhile] at skipped

/-- A comma is taken with the spaces behind it. -/
theorem reads_comma (h : Starts (rest.dropWhile isSpace)) : Reads comma (',' :: rest) true (rest.dropWhile isSpace) := by
  refine (reads_no_spaces ⟨',', rest, rfl, by decide, by decide⟩).bind ?_
  refine (reads_consume [','] rest).bind ?_
  exact (reads_spaces h).bind (Reads.pure true _)

/-- No comma is taken where something else starts. -/
theorem reads_no_comma (h : Starts cs) (other : cs.head? ≠ some ',') : Reads comma cs false cs := by
  refine (reads_no_spaces h).bind ?_
  exact (reads_consume_other (isPrefixOf_eq_false_of_head other [])).bind (Reads.pure false _)

/-! ## Words -/

/-- A text that does not go on as a word does. -/
def Ends (cs : List Char) : Prop :=
  cs.head?.any Text.isIdentifierPart = false

theorem reads_isWord (word : String) (cs : List Char) :
    Reads (isWord word) cs (word.toList.isPrefixOf cs && !(cs.drop word.toList.length).head?.any Text.isIdentifierPart) cs :=
  (reads_rest cs).bind (Reads.pure _ cs)

theorem ends_cons {c : Char} (h : Text.isIdentifierPart c = false) (rest : List Char) : Ends (c :: rest) := h

/-- A word is taken where it stands and ends. -/
theorem reads_consumeWord {word : String} (h : Ends rest) : Reads (consumeWord word) (word.toList ++ rest) true rest := by
  have found : (word.toList.isPrefixOf (word.toList ++ rest) &&
      !((word.toList ++ rest).drop word.toList.length).head?.any Text.isIdentifierPart) = true := by
    rw [List.drop_left, h, List.isPrefixOf_iff_prefix.mpr (List.prefix_append _ rest)]
    rfl
  refine (reads_isWord word _).bind ?_
  rw [found, if_pos rfl]
  refine (reads_advance _ _).bind ?_
  rw [List.drop_left]
  exact Reads.pure true rest

/-- A word is not taken where it does not stand. -/
theorem reads_consumeWord_other {word : String} (h : word.toList.isPrefixOf cs = false) :
    Reads (consumeWord word) cs false cs := by
  refine (reads_isWord word cs).bind ?_
  rw [h, Bool.false_and, if_neg Bool.false_ne_true]
  exact Reads.pure false cs

/-- A word is taken with what it stands for if no other of the words starts like it. -/
theorem reads_wordFor {words : List (String × α)} {w : String × α} (member : w ∈ words)
    (apart : ∀ v ∈ words, v.1.toList <+: w.1.toList ∨ w.1.toList <+: v.1.toList → v = w) (h : Ends rest) :
    Reads (wordFor words) (w.1.toList ++ rest) (some w.2) rest := by
  induction words with
  | nil => exact absurd member List.not_mem_nil
  | cons v words ih =>
    by_cases same : v = w
    · exact same ▸ (reads_consumeWord h).bind (Reads.pure _ _)
    · have other : v.1.toList.isPrefixOf (w.1.toList ++ rest) = false := by
        rw [Bool.eq_false_iff]
        intro starts
        exact same (apart v List.mem_cons_self
          (List.prefix_or_prefix_of_prefix (List.isPrefixOf_iff_prefix.mp starts) (List.prefix_append _ rest)))
      refine (reads_consumeWord_other other).bind ?_
      exact ih ((List.mem_cons.mp member).resolve_left (Ne.symm same)) fun v hv => apart v (List.mem_cons_of_mem _ hv)

/-- No word is taken where none of them stands. -/
theorem reads_wordFor_none {words : List (String × α)} (others : ∀ w ∈ words, w.1.toList.isPrefixOf cs = false) :
    Reads (wordFor words) cs none cs := by
  induction words with
  | nil => exact Reads.pure none cs
  | cons w words ih =>
    refine (reads_consumeWord_other (others w List.mem_cons_self)).bind ?_
    exact ih fun w hw => others w (List.mem_cons_of_mem _ hw)

/-- Nor is one of two words taken where neither stands. -/
theorem reads_wordFor_neither {v w : String × α} (first : v.1.toList.isPrefixOf cs = false)
    (second : w.1.toList.isPrefixOf cs = false) : Reads (wordFor [v, w]) cs none cs :=
  reads_wordFor_none (List.forall_mem_cons.2 ⟨first, List.forall_mem_singleton.2 second⟩)

/-! ## Loops -/

variable {σ : Type}

/-- A loop that reads nothing in any of its turns. -/
theorem Reads.forIn_none {xs : List β} {s : σ} {f : β → σ → Reader (ForInStep σ)}
    (turn : ∀ x ∈ xs, Reads (f x s) cs (.yield s) cs) : Reads (forIn xs s f) cs s cs := by
  induction xs with
  | nil => exact Reads.pure s cs
  | cons x xs ih =>
    rw [List.forIn_cons]
    refine (turn x List.mem_cons_self).bind ?_
    exact ih fun x hx => turn x (List.mem_cons_of_mem _ hx)

/-- A loop that ends with its first turn. -/
theorem Reads.forIn_first {x : β} {xs : List β} {s t : σ} {f : β → σ → Reader (ForInStep σ)}
    (turn : Reads (f x s) cs (.done t) rest) : Reads (forIn (x :: xs) s f) cs t rest := by
  rw [List.forIn_cons]
  exact turn.bind (Reads.pure t rest)

/-- A loop whose first turn reads nothing. -/
theorem Reads.forIn_next {x : β} {xs : List β} {s t : σ} {f : β → σ → Reader (ForInStep σ)}
    (turn : Reads (f x s) cs (.yield s) cs) (others : Reads (forIn xs s f) cs t rest) : Reads (forIn (x :: xs) s f) cs t rest := by
  rw [List.forIn_cons]
  exact turn.bind others

end Reader

end Notation

end DebugConsole
