import DebugConsole.Notation.Record
import DebugConsole.Proofs.Notation.Text

/-!
# Lists, records and optional values read back

Items with commas behind them are read in rounds, one item a round. `Listed` is what such a text looks like, and `reads_rounds` is
the induction over the rounds, once for lists and records: a round reads one item, and the rounds together read all of them.
-/

namespace DebugConsole

namespace Notation

/-- A text with items and a comma behind each of them, up to a closing character and what follows. Spaces may stand in front of the
items and of the closing character. -/
inductive Listed (close : Char) (rest : List Char) : List (List Char) → List Char → Prop
  | nil {cs : List Char} (h : cs.dropWhile isSpace = close :: rest) (starts : Reader.Starts (close :: rest)) :
    Listed close rest [] cs
  | cons {item : List Char} {items : List (List Char)} {cs more : List Char} (h : cs.dropWhile isSpace = item ++ ',' :: more)
    (starts : Reader.Starts item) (others : Listed close rest items more) : Listed close rest (item :: items) cs

namespace Listed

variable {close : Char} {rest cs : List Char} {items : List (List Char)}

theorem close_starts (h : Listed close rest items cs) : Reader.Starts (close :: rest) := by
  induction h with
  | nil _ starts => exact starts
  | cons _ _ _ ih => exact ih

theorem starts (h : Listed close rest items cs) : Reader.Starts (cs.dropWhile isSpace) := by
  cases h with
  | nil h starts => exact h ▸ starts
  | cons h starts _ => exact h ▸ starts.append _

/-- The spaces in front of the first item do not matter. -/
theorem dropWhile (h : Listed close rest items cs) : Listed close rest items (cs.dropWhile isSpace) := by
  have again := h.starts.dropWhile
  cases h with
  | nil h starts => exact .nil (again.trans h) starts
  | cons h starts others => exact .cons (again.trans h) starts others

end Listed

namespace Reader

variable {α β σ : Type}

/-! ## Rounds -/

/-- A round that ends the repetition. -/
theorem reads_iterate_stop {round : σ → Reader (Option σ)} {s : σ} {cs rest : List Char} (h : Reads (round s) cs none rest) :
    Reads (iterate round s) cs s rest := by
  intro before
  obtain ⟨after, hr⟩ := h before
  refine ⟨after, ?_⟩
  rw [iterate, hr]

/-- A round that takes something, and the rounds after it. -/
theorem reads_iterate_step {round : σ → Reader (Option σ)} {s t u : σ} {cs mid rest : List Char}
    (h : Reads (round s) cs (some t) mid) (shorter : mid.length < cs.length) (others : Reads (iterate round t) mid u rest) :
    Reads (iterate round s) cs u rest := by
  intro before
  obtain ⟨between, hr⟩ := h before
  obtain ⟨after, ho⟩ := others between
  refine ⟨after, ?_⟩
  rw [iterate, hr]
  dsimp only
  rw [if_pos shorter, ho]

/-- Rounds that read one item each read all of them. -/
theorem reads_rounds {ι : Type} {text : ι → List Char} {value : ι → β} {round : List β × Bool → Reader (Option (List β × Bool))}
    {close : Char} {rest : List Char} {written : List ι}
    (stop : ∀ found {cs}, Listed close rest [] cs → Reads (round (found, true)) cs none (close :: rest))
    (step : ∀ done w todo, written = done ++ w :: todo → ∀ {cs more}, cs.dropWhile isSpace = text w ++ ',' :: more →
      Starts (text w) → Starts (more.dropWhile isSpace) →
      Reads (round (done.map value, true)) cs (some (done.map value ++ [value w], true)) (more.dropWhile isSpace))
    {cs : List Char} (h : Listed close rest (written.map text) cs) :
    Reads (iterate round ([], true)) cs (written.map value, true) (close :: rest) := by
  -- the invariant: the items found so far and those that are still listed make up all of them
  suffices invariant : ∀ todo done, written = done ++ todo → ∀ {cs}, Listed close rest (todo.map text) cs →
      Reads (iterate round (done.map value, true)) cs (written.map value, true) (close :: rest) from invariant written [] rfl h
  intro todo
  induction todo with
  | nil =>
    intro done all cs h
    rw [List.append_nil] at all
    rw [all]
    exact reads_iterate_stop (stop _ h)
  | cons w todo ih =>
    intro done all cs h
    cases h with
    | @cons _ _ _ more text_eq starts others =>
      have rounds := ih (done ++ [w]) (by rw [all, List.append_assoc]; rfl) others.dropWhile
      rw [List.map_append] at rounds
      refine reads_iterate_step (step done w todo all text_eq starts others.starts) ?_ rounds
      have shorter := length_dropWhile_le isSpace more
      have spaces := length_dropWhile_le isSpace cs
      rw [text_eq, List.length_append, List.length_cons] at spaces
      omega

/-- A round ends at the closing character. -/
theorem stops_at (close : Char) (rest : List Char) : (!true || decide ((close :: rest).head? = some close)) = true := by
  rw [List.head?_cons, decide_eq_true rfl, Bool.or_true]

/-- A round goes on at an item that starts with something else. -/
theorem goes_on_at {item : List Char} {close : Char} (starts : Starts item) (other : item.head? ≠ some close) (more : List Char) :
    ¬(!true || decide ((item ++ more).head? = some close)) = true := by
  obtain ⟨c, tail, rfl, -⟩ := starts
  rw [List.cons_append, List.head?_cons, decide_eq_false (by simpa using other), Bool.not_true, Bool.or_false]
  exact Bool.false_ne_true

/-! ## Lists -/

section

variable {ι : Type} {text : ι → List Char} {written : List ι} {cs rest : List Char}

/-- Items are read up to the closing character. -/
theorem reads_items {close : Char} {item : Reader α} {value : ι → α}
    (each : ∀ w ∈ written, (text w).head? ≠ some close ∧ ∀ more, Reads item (text w ++ ',' :: more) (value w) (',' :: more))
    (h : Listed close rest (written.map text) cs) : Reads (items close item) cs (written.map value) (close :: rest) := by
  refine Reads.bind (reads_rounds ?_ ?_ h) ((reads_no_spaces h.close_starts).bind (Reads.pure (written.map value) _))
  · intro found cs h
    cases h with
    | nil h starts =>
      refine (reads_spaces (h ▸ starts)).bind ((reads_peek _).bind ?_)
      rw [h, if_pos (stops_at close rest)]
      exact Reads.pure none _
  · intro done w todo all cs more h starts next
    have member : w ∈ written := all ▸ List.mem_append_right done List.mem_cons_self
    obtain ⟨other, read⟩ := each w member
    refine (reads_spaces (h ▸ starts.append _)).bind ((reads_peek _).bind ?_)
    rw [h, if_neg (goes_on_at starts other _)]
    exact (read more).bind ((reads_comma next).bind (Reads.pure _ _))

/-- A list is read up to its closing bracket. -/
theorem reads_list (depth : Nat) (item : Nat → Reader α) (value : ι → α)
    (each : ∀ w ∈ written, (text w).head? ≠ some ']' ∧ ∀ more, Reads (item depth) (text w ++ ',' :: more) (value w) (',' :: more))
    (h : Listed ']' rest (written.map text) cs) : Reads (list (depth + 2) item) ('[' :: cs) (written.map value) rest := by
  refine (reads_expect '[' _ cs).bind ?_
  exact Reads.bind (reads_items each h) ((reads_expect ']' _ rest).bind (Reads.pure _ rest))

end

/-! ## Records -/

/-- A field as it is written, with the value that stands there. -/
structure WrittenField (α : Type) where
  name : String
  text : List Char
  value : α

namespace WrittenField

/-- The characters of a field. -/
def characters (f : WrittenField α) : List Char :=
  f.name.toList ++ ':' :: ' ' :: f.text

theorem characters_append (f : WrittenField α) (more : List Char) :
    f.characters ++ more = f.name.toList ++ ':' :: ' ' :: (f.text ++ more) := by
  unfold characters
  rw [List.append_assoc]
  rfl

/-- A name that is the only one of its kind does not stand in front of itself. -/
theorem not_duplicate {f : WrittenField α} {before after : List (WrittenField α)}
    (distinct : ((before ++ f :: after).map (·.name)).Nodup) :
    (before.map fun f => (f.name, f.value)).any (·.1 = f.name) = false := by
  rw [List.map_append, List.map_cons, List.nodup_append] at distinct
  rw [List.any_eq_false]
  intro pair member
  obtain ⟨g, hg, rfl⟩ := List.mem_map.mp member
  have differs := distinct.2.2 g.name (List.mem_map_of_mem hg) f.name List.mem_cons_self
  simpa using differs

end WrittenField

/-- A name does not start like a space, a comment or the end of a record. -/
theorem start_of_isName {name : List Char} (h : IsName name) : Starts name ∧ name.head? ≠ some ')' := by
  cases name with
  | nil => exact absurd h.1 (by decide)
  | cons first others =>
    have start : Text.isIdentifierStart first = true := h.1
    have outside : ('/' :: spaceCharacters).any Text.isIdentifierStart = false := by
      rw [List.any_eq_false]
      intro c space
      rw [isIdentifierStart_of_not_isRawPart (isRawPart_space c space)]
      exact Bool.false_ne_true
    refine ⟨starts_cons outside start others, ?_⟩
    intro close
    obtain rfl : first = ')' := by simpa using close
    exact absurd start (by simp)

theorem start_of_characters {f : WrittenField α} (h : IsName f.name.toList) :
    Starts f.characters ∧ f.characters.head? ≠ some ')' := by
  obtain ⟨starts, other⟩ := start_of_isName h
  refine ⟨starts.append _, ?_⟩
  obtain ⟨c, others, name_eq, -⟩ := starts
  unfold WrittenField.characters
  rw [name_eq] at other ⊢
  exact other

/-- The colon behind a name is skipped with the spaces behind it. -/
theorem reads_colon {rest : List Char} (starts : Starts (rest.dropWhile isSpace)) :
    Reads colon (':' :: rest) () (rest.dropWhile isSpace) := by
  refine (reads_no_spaces ⟨':', rest, rfl, by decide, by decide⟩).bind ?_
  exact (reads_expect ':' _ rest).bind (reads_spaces starts)

/-- Fields with different names are read up to the closing parenthesis, if each of them is known and its value is read. -/
theorem reads_fields (e : Extensions) (record : String) {depth : Nat} {known : String → Option (Nat → Reader α)}
    {written : List (WrittenField α)} {cs rest : List Char} (distinct : (written.map (·.name)).Nodup)
    (each : ∀ f ∈ written, IsName f.name.toList ∧ Starts f.text ∧ ∃ reader, known f.name = some reader ∧
      ∀ more, Reads (reader depth) (f.text ++ ',' :: more) f.value (',' :: more))
    (h : Listed ')' rest (written.map (·.characters)) cs) :
    Reads (fields e record (depth + 1) known) cs (written.map fun f => (f.name, f.value)) (')' :: rest) := by
  refine Reads.bind (reads_rounds ?_ ?_ h) (Reads.pure _ _)
  · intro found cs h
    cases h with
    | nil h starts =>
      refine (reads_spaces (h ▸ starts)).bind ((reads_peek _).bind ?_)
      rw [h, if_pos (stops_at ')' rest)]
      exact Reads.pure none _
  · intro done f todo all cs more h starts next
    have member : f ∈ written := all ▸ List.mem_append_right done List.mem_cons_self
    obtain ⟨isName, value_starts, reader, known_reader, read⟩ := each f member
    have new := WrittenField.not_duplicate (all ▸ distinct)
    have skipped := (value_starts.append (',' :: more)).dropWhile_space
    refine (reads_spaces (h ▸ starts.append _)).bind ((reads_peek _).bind ?_)
    rw [h, if_neg (goes_on_at starts (start_of_characters isName).2 _), f.characters_append]
    refine Reads.bind (reads_name isName (endsName_colon _)) ?_
    dsimp only
    rw [known_reader]
    dsimp only
    rw [if_neg (by rw [new]; exact Bool.false_ne_true)]
    have colon := reads_colon (skipped.symm ▸ value_starts.append (',' :: more))
    rw [skipped] at colon
    exact colon.bind (Reads.bind (read more) ((reads_comma next).bind (Reads.pure _ _)))

/-- What stands in front of the contents of a record without a name. -/
theorem reads_recordName_none {e : Extensions} (unnamed : e.namedRecords = false) (expected : String) (cs : List Char) :
    Reads (recordName e expected) ('(' :: cs) () ('(' :: cs) := by
  have outside : Text.isIdentifierPart '(' = false := by simp
  refine (reads_rest _).bind ?_
  rw [List.head?_cons, Option.any_some, outside, if_pos (by decide), unnamed, if_neg Bool.false_ne_true]
  exact Reads.pure () _

theorem starts_open (cs : List Char) : Starts ('(' :: cs) := ⟨'(', cs, rfl, by decide, by decide⟩

theorem starts_close (cs : List Char) : Starts (')' :: cs) := ⟨')', cs, rfl, by decide, by decide⟩

theorem reads_no_comma_close (rest : List Char) : Reads comma (')' :: rest) false (')' :: rest) :=
  reads_no_comma (starts_close rest) (by simp)

/-- A record without a name is read if its contents are. -/
theorem reads_record {e : Extensions} (unnamed : e.namedRecords = false) (name : String) {depth : Nat} {contents : Nat → Reader α}
    {value : α} {cs rest : List Char} (h : Reads (contents depth) cs value (')' :: rest)) :
    Reads (record e false name (depth + 1) contents) ('(' :: cs) value rest := by
  refine (reads_recordName_none unnamed name cs).bind ((reads_no_spaces (starts_open cs)).bind ?_)
  refine (reads_expect '(' _ cs).bind (Reads.bind h ((reads_no_spaces (starts_close rest)).bind ?_))
  exact (reads_expect ')' _ rest).bind (Reads.pure value rest)

/-- A tuple of two values in one line is read if they are. -/
theorem reads_pair {e : Extensions} (unnamed : e.namedRecords = false) (name : String) (depth : Nat) {item : Reader α}
    {first second : α} {fs ss rest : List Char} (fs_starts : Starts fs) (ss_starts : Starts ss)
    (fs_other : fs.head? ≠ some ')') (ss_other : ss.head? ≠ some ')')
    (read_first : ∀ more, Reads item (fs ++ ',' :: more) first (',' :: more))
    (read_second : Reads item (ss ++ ')' :: rest) second (')' :: rest)) :
    Reads (pair e false name (depth + 2) item) ('(' :: (fs ++ ',' :: ' ' :: (ss ++ ')' :: rest))) (first, second) rest := by
  have skipped := (ss_starts.append (')' :: rest)).dropWhile_space
  refine (reads_recordName_none unnamed name _).bind ((reads_expect '(' _ _).bind ?_)
  refine Reads.bind (?_ : Reads _ _ (first, second) (')' :: rest)) ?_
  · refine Reads.bind (?_ : Reads _ _ (first, true) (ss ++ ')' :: rest))
      (Reads.bind (?_ : Reads _ _ (second, false) _) (Reads.pure _ _))
    · refine (reads_no_spaces (fs_starts.append _)).bind ((reads_peek _).bind ?_)
      rw [if_neg (goes_on_at fs_starts fs_other _)]
      have comma := reads_comma (skipped.symm ▸ ss_starts.append (')' :: rest))
      rw [skipped] at comma
      exact Reads.bind (read_first _) (comma.bind (Reads.pure _ _))
    · refine (reads_no_spaces (ss_starts.append _)).bind ((reads_peek _).bind ?_)
      rw [if_neg (goes_on_at ss_starts ss_other _)]
      exact Reads.bind read_second ((reads_no_comma_close rest).bind (Reads.pure _ _))
  · exact (reads_no_spaces (starts_close rest)).bind ((reads_expect ')' _ rest).bind (Reads.pure _ rest))

/-- A variant around one part is read if it is known and its part is read. -/
theorem reads_variant (e : Extensions) (kind : String) {known : List (String × β)} {name : String} {which : β} {depth : Nat}
    {contents : β → Bool → Nat → Reader α} {value : α} {cs rest : List Char} (isName : IsName name.toList)
    (found : known.lookup name = some which) (starts : Starts cs)
    (h : Reads (contents which e.bareVariants depth) cs value (')' :: rest)) :
    Reads (variant e kind known (depth + 1) contents) (name.toList ++ '(' :: cs) value rest := by
  refine (reads_no_spaces ((start_of_isName isName).1.append _)).bind ?_
  refine Reads.bind (reads_name isName (endsName_open cs)) ?_
  rw [found]
  refine (reads_no_spaces (starts_open cs)).bind ((reads_expect '(' _ cs).bind ((reads_no_spaces starts).bind ?_))
  refine Reads.bind h ((reads_no_comma_close rest).bind ?_)
  exact (reads_expect ')' _ rest).bind (Reads.pure value rest)

/-! ## Optional values -/

theorem reads_optional_none (e : Extensions) (depth : Nat) (contents : Bool → Nat → Reader α) {rest : List Char} (h : Ends rest) :
    Reads (optional e depth contents) ("None".toList ++ rest) none rest := by
  refine (reads_consumeWord h).bind ?_
  exact Reads.pure none rest

/-- A value that is there is read if its contents are. -/
theorem reads_optional_some (e : Extensions) {depth : Nat} {contents : Bool → Nat → Reader α} {value : α} {cs rest : List Char}
    (starts : Starts cs) (h : Reads (contents e.bareVariants depth) cs value (')' :: rest)) :
    Reads (optional e (depth + 1) contents) ("Some(".toList ++ cs) (some value) rest := by
  have outside : Text.isIdentifierPart '(' = false := by simp
  have word : "Some(".toList ++ cs = "Some".toList ++ '(' :: cs := rfl
  have other : "None".toList.isPrefixOf ("Some".toList ++ '(' :: cs) = false := rfl
  rw [word]
  refine (reads_consumeWord_other other).bind ?_
  refine (reads_consumeWord (ends_cons outside cs)).bind ?_
  refine (reads_no_spaces (starts_open cs)).bind ((reads_consume ['('] cs).bind ((reads_no_spaces starts).bind ?_))
  refine Reads.bind h ((reads_no_comma_close rest).bind ?_)
  exact (reads_expect ')' _ rest).bind (Reads.pure _ rest)

end Reader

end Notation

end DebugConsole
