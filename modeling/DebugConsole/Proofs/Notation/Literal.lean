import DebugConsole.Proofs.Notation.Gap
import DebugConsole.Proofs.Notation.Text

/-!
# Names, texts and characters as they may be written

A name may be marked as raw, a text may be quoted or raw, and a character or a byte may be escaped. Each of these is read as far as it
goes, whatever follows it: what the reader finds in it does not change when more text is put behind it.
-/

namespace DebugConsole

namespace Notation

/-! ## Names -/

/-- How a name may be written: as it is, or with the mark of raw names. -/
inductive Name (name : String) : List Char → Prop
  | plain (h : IsName name.toList) : Name name name.toList
  | raw (nonempty : name.toList ≠ []) (h : ∀ c ∈ name.toList, isRawPart c = true) : Name name ('r' :: '#' :: name.toList)

/-- A name ends where something else starts than another part of it, a text or a raw name. -/
theorem endsName_cons {c : Char} (h : c ∈ '(' :: Reader.edges) (rest : List Char) : EndsName (c :: rest) := by
  have unquoted : ∀ c ∈ '(' :: Reader.edges, c ≠ '"' ∧ c ≠ '\'' ∧ c ≠ '#' := by decide
  have outside : isRawPart c = false := by
    rcases List.mem_cons.1 h with rfl | edge
    · simp [isRawPart]
    · exact Reader.isRawPart_edge edge
  exact ⟨c, rest, rfl, outside, unquoted c h⟩

theorem endsName_follows {rest : List Char} (h : Reader.Follows rest) : EndsName rest := by
  obtain ⟨c, more, rfl, edge⟩ := h.head
  exact endsName_cons (List.mem_cons_of_mem _ edge) more

/-- A name is found however it is written. -/
theorem name?_written {name : String} {cs rest : List Char} (h : Name name cs) (ends : EndsName rest) :
    ∃ mark, name? (cs ++ rest) = .ok (mark, name.toList) ∧ mark + name.toList.length = cs.length := by
  cases h with
  | plain h => exact ⟨0, name?_append h ends, Nat.zero_add _⟩
  | raw nonempty h =>
    refine ⟨2, ?_, Nat.add_comm _ _⟩
    obtain ⟨c, others, name_eq⟩ := List.exists_cons_of_ne_nil nonempty
    have start : Text.isIdentifierStart 'r' = true := by simp
    have special : isRawPart '"' = false ∧ isRawPart '#' = false := by simp [isRawPart]
    have unquoted : c ≠ '"' ∧ c ≠ '#' := by
      have part : isRawPart c = true := h c (name_eq ▸ List.mem_cons_self)
      constructor <;> rintro rfl <;> simp_all
    have marks : literalMarks.any (·.isPrefixOf ('r' :: '#' :: (name.toList ++ rest))) = false := by
      rw [name_eq]
      simp [literalMarks, List.isPrefixOf, Ne.symm unquoted.1, Ne.symm unquoted.2]
    have taken : (name.toList ++ rest).takeWhile isRawPart = name.toList := takeWhile_stop h ends.head_raw
    rw [List.cons_append, List.cons_append]
    unfold name?
    simp only [start, marks, Bool.not_true, Bool.false_eq_true, if_false]
    rw [if_pos (by simp [List.isPrefixOf]), List.drop_succ_cons, List.drop_succ_cons, List.drop_zero, taken, name_eq]

/-- A name starts like no space, comment or mark. -/
theorem opens_name {name : String} {cs : List Char} (h : Name name cs) : Reader.Opens cs := by
  cases h with
  | plain h =>
    obtain ⟨start, -⟩ := h
    cases name_eq : name.toList with
    | nil => rw [name_eq] at start; exact absurd start (by decide)
    | cons c others =>
      rw [name_eq] at start
      refine Reader.opens_cons (fun edge => ?_) others
      have outside := isIdentifierStart_of_not_isRawPart (Reader.isRawPart_edge edge)
      exact Bool.false_ne_true (outside.symm.trans start)
  | raw _ _ => exact Reader.opens_cons (by decide) _

/-- A name starts like a word, however it is written. -/
theorem head_name {name : String} {cs : List Char} (h : Name name cs) (rest : List Char) :
    (cs ++ rest).head?.any Text.isIdentifierPart = true := by
  cases h with
  | plain h =>
    obtain ⟨c, start, -⟩ := (Option.any_eq_true _ _).1 h.1
    obtain ⟨more, text⟩ := List.head?_eq_some_iff.1 start
    have member : c ∈ name.toList := by rw [text]; exact List.mem_cons_self
    rw [text]
    exact List.all_eq_true.1 h.2 c member
  | raw _ _ => exact (by simp : Text.isIdentifierPart 'r' = true)

namespace Reader

/-- A name is taken however it is written. -/
theorem reads_name_written {word : String} {cs rest : List Char} (h : Name word cs) (ends : EndsName rest) :
    Reads name (cs ++ rest) word rest := by
  obtain ⟨mark, found, length⟩ := name?_written h ends
  have same : String.ofList word.toList = word := String.ofList_toList
  have whole : (cs ++ rest).drop (mark + word.toList.length) = rest := by rw [length, List.drop_left]
  refine (reads_rest _).bind ?_
  rw [found]
  dsimp only
  by_cases unmarked : mark = 0
  · subst unmarked
    rw [if_neg (not_not.2 rfl)]
    rw [Nat.zero_add] at whole
    refine (reads_advance _ _).bind ?_
    rw [whole, same]
    exact Reads.pure word rest
  · rw [if_pos unmarked]
    refine (reads_advance _ _).bind ((reads_advance _ _).bind ?_)
    rw [List.drop_drop, whole, same]
    exact Reads.pure word rest

/-- So is a name that need not be there. -/
theorem reads_optionalName_written {word : String} {cs rest : List Char} (h : Name word cs) (ends : EndsName rest) :
    Reads optionalName (cs ++ rest) (some word) rest := by
  obtain ⟨mark, found, length⟩ := name?_written h ends
  have same : String.ofList word.toList = word := String.ofList_toList
  refine (reads_rest _).bind ?_
  rw [found]
  refine (reads_advance _ _).bind ?_
  rw [length, List.drop_left, same]
  exact Reads.pure _ rest

/-- Where no name stands, none is taken. -/
theorem reads_optionalName_none {cs : List Char} {fault : Fault} (h : name? cs = .error fault) : Reads optionalName cs none cs := by
  refine (reads_rest _).bind ?_
  rw [h]
  exact Reads.pure none cs

end Reader

/-! ## Escapes and texts -/

variable {place : EscapePlace} {cs after : List Char} {c : Char} {text : List Char}

/-- Two digits are read whatever follows them. -/
theorem hexByte?_append {byte : UInt8} (h : hexByte? cs = some (byte, after)) (rest : List Char) :
    hexByte? (cs ++ rest) = some (byte, after ++ rest) := by
  match cs with
  | [] => exact absurd h (by simp [hexByte?])
  | [_] => exact absurd h (by simp [hexByte?])
  | a :: b :: cs =>
    simp only [hexByte?, Option.map_eq_some_iff, Prod.mk.injEq] at h
    obtain ⟨n, number, same, rfl⟩ := h
    simp only [List.cons_append, hexByte?, number, Option.map_some, same]

/-- A character that is escaped byte by byte is read as far as its last byte. -/
theorem byteEscapes?_append {before : List UInt8} {more : Nat} (h : byteEscapes? before more cs = .ok (c, after)) (rest : List Char) :
    byteEscapes? before more (cs ++ rest) = .ok (c, after ++ rest) := by
  fun_induction byteEscapes? before more cs with
  | case1 => exact absurd h (by simp)
  | case2 more before cs byte d left whole first =>
    simp only [Except.ok.injEq, Prod.mk.injEq] at h
    obtain ⟨rfl, rfl⟩ := h
    rw [byteEscapes?, hexByte?_append first rest]
    simp only [whole]
  | case3 before cs byte more left unfinished first ih =>
    rw [byteEscapes?, hexByte?_append first rest]
    simp only [unfinished, List.cons_append]
    exact ih h
  | case4 => exact absurd h (by simp)

theorem hexEscape?_append (h : place.hexEscape? cs = .ok (c, after)) (rest : List Char) :
    place.hexEscape? (cs ++ rest) = .ok (c, after ++ rest) := by
  cases place with
  | text => exact byteEscapes?_append h rest
  | character => exact byteEscapes?_append h rest
  | bytes =>
    simp only [EscapePlace.hexEscape?] at h ⊢
    cases found : hexByte? cs with
    | none => rw [found] at h; exact absurd h (by simp)
    | some first =>
      rw [found] at h
      simp only [Except.ok.injEq, Prod.mk.injEq] at h
      obtain ⟨rfl, rfl⟩ := h
      rw [hexByte?_append found rest]

/-- What is in braces is read up to the closing brace. -/
theorem braced_append {ds : List Char} (taken : (cs.take 6).takeWhile (· != '}') = ds) (closed : cs.drop ds.length = '}' :: after)
    (rest : List Char) :
    ((cs ++ rest).take 6).takeWhile (· != '}') = ds ∧ (cs ++ rest).drop ds.length = '}' :: (after ++ rest) := by
  have front : ds <+: cs := taken ▸ (List.takeWhile_prefix _).trans (List.take_prefix 6 cs)
  have inside : ∀ d ∈ ds, (d != '}') = true := taken ▸ List.all_eq_true.1 List.all_takeWhile
  have few : ds.length ≤ 6 := by
    have longer := (taken ▸ List.takeWhile_prefix (· != '}') (l := cs.take 6)).length_le
    exact longer.trans (List.length_take_le 6 cs)
  obtain ⟨behind, rfl⟩ := front
  rw [List.drop_left] at closed
  rw [closed, List.append_assoc, List.cons_append]
  exact ⟨takeWhile_braced inside few _, List.drop_left⟩

/-- An escape is read as far as it goes. -/
theorem escape?_append (h : escape? place cs = .ok (c, after)) (rest : List Char) :
    escape? place (cs ++ rest) = .ok (c, after ++ rest) := by
  fun_cases escape? place cs with
  | case8 cs => exact hexEscape?_append h rest
  | case9 cs ds number =>
    have taken : (cs.take 6).takeWhile (· != '}') = ds := rfl
    clear_value ds
    simp [escape?, taken, number] at h
  | case10 cs ds n left closed number empty =>
    have taken : (cs.take 6).takeWhile (· != '}') = ds := rfl
    clear_value ds
    simp only [escape?, taken, closed, number, if_pos empty] at h
    exact absurd h (by simp)
  | case11 cs ds n left closed number nonempty d valid =>
    have taken : (cs.take 6).takeWhile (· != '}') = ds := rfl
    clear_value ds
    obtain ⟨taken', closed'⟩ := braced_append taken closed rest
    simp only [escape?, taken, closed, number, if_neg nonempty, valid, Except.ok.injEq, Prod.mk.injEq] at h
    obtain ⟨rfl, rfl⟩ := h
    simp only [List.cons_append, escape?, taken', closed', number, if_neg nonempty, valid]
  | case12 cs ds n left closed number nonempty invalid =>
    have taken : (cs.take 6).takeWhile (· != '}') = ds := rfl
    clear_value ds
    simp [escape?, taken, closed, number, nonempty, invalid] at h
  | case13 cs ds n number open' =>
    have taken : (cs.take 6).takeWhile (· != '}') = ds := rfl
    clear_value ds
    simp [escape?, taken, number] at h
  | case14 => simp_all [escape?]
  | case15 => simp_all [escape?]
  | _ =>
    simp only [escape?, Except.ok.injEq, Prod.mk.injEq] at h
    obtain ⟨rfl, rfl⟩ := h
    rfl

/-- The blanks at the front of the next line are left out up to where the text goes on. -/
theorem nextLine?_append (h : nextLine? cs = some after) (goes_on : after ≠ []) (rest : List Char) :
    nextLine? (cs ++ rest) = some (after ++ rest) := by
  have skipped : ∀ {p : Char → Bool} {cs : List Char}, cs.dropWhile p = after → (cs ++ rest).dropWhile p = after ++ rest := by
    rintro p cs rfl
    rw [List.dropWhile_append, if_neg (by simpa using goes_on)]
  fun_cases nextLine? cs with
  | case1 =>
    simp only [nextLine?, Option.some.injEq, List.cons_append] at h ⊢
    exact skipped h
  | case2 =>
    simp only [nextLine?, Option.some.injEq, List.cons_append] at h ⊢
    exact skipped h
  | case3 => simp_all [nextLine?]

/-- An escape is no line break, whatever follows it. -/
theorem nextLine?_of_escape (h : escape? place cs = .ok (c, after)) (rest : List Char) : nextLine? (cs ++ rest) = none := by
  cases cs with
  | nil => simp [escape?] at h
  | cons d cs =>
    have newline : d ≠ '\n' := by
      rintro rfl
      simp [escape?] at h
    have carriage : d ≠ '\r' := by
      rintro rfl
      simp [escape?] at h
    simp [nextLine?, newline, carriage]

/-- What a backslash in a quoted text stands for, from what follows it, and what follows it all. -/
def backslash? (place : EscapePlace) (cs : List Char) : Except Fault (List Char × List Char) :=
  match nextLine? cs with
  | some after => .ok ([], after)
  | none =>
    match escape? place cs with
    | .ok (c, after) => .ok ([c], after)
    | .error why => .error (.badEscape why)

theorem backslash?_append {piece : List Char} (h : backslash? place cs = .ok (piece, after)) (goes_on : after ≠ []) (rest : List Char) :
    backslash? place (cs ++ rest) = .ok (piece, after ++ rest) := by
  unfold backslash? at h ⊢
  cases line : nextLine? cs with
  | some next =>
    rw [line] at h
    simp only [Except.ok.injEq, Prod.mk.injEq] at h
    obtain ⟨rfl, rfl⟩ := h
    rw [nextLine?_append line goes_on rest]
  | none =>
    rw [line] at h
    dsimp only at h
    cases escaped : escape? place cs with
    | error why => rw [escaped] at h; exact absurd h (by simp)
    | ok found =>
      rw [escaped] at h
      simp only [Except.ok.injEq, Prod.mk.injEq] at h
      obtain ⟨rfl, rfl⟩ := h
      rw [nextLine?_of_escape escaped rest, escape?_append escaped rest]

theorem quoted?_backslash {piece : List Char} (step : backslash? place cs = .ok (piece, after)) (shorter : after.length < cs.length)
    {rest : List Char} (h : quoted? place after = .ok (text, rest)) : quoted? place ('\\' :: cs) = .ok (piece ++ text, rest) := by
  unfold backslash? at step
  rw [quoted?]
  cases line : nextLine? cs with
  | some next =>
    rw [line] at step
    cases step
    dsimp only
    rw [if_pos shorter, h]
  | none =>
    rw [line] at step
    dsimp only at step
    cases escaped : escape? place cs with
    | error why => rw [escaped] at step; exact absurd step (by simp)
    | ok found =>
      rw [escaped] at step
      cases step
      dsimp only
      rw [if_pos shorter, h]

/-- A quoted text is read up to its closing quote. -/
theorem quoted?_append (h : quoted? place cs = .ok (text, after)) (rest : List Char) :
    quoted? place (cs ++ rest) = .ok (text, after ++ rest) := by
  fun_induction quoted? place cs generalizing text after with
  | case2 cs =>
    simp only [Except.ok.injEq, Prod.mk.injEq] at h
    obtain ⟨rfl, rfl⟩ := h
    rw [List.cons_append, quoted?]
  | case4 cs step piece next found shorter tail left behind =>
    rename_i ih
    simp only [Except.ok.injEq, Prod.mk.injEq] at h
    obtain ⟨rfl, rfl⟩ := h
    have goes_on : next ≠ [] := by
      rintro rfl
      rw [quoted?] at behind
      exact absurd behind (by simp)
    have step : backslash? place cs = .ok (piece, next) := found
    refine quoted?_backslash (backslash?_append step goes_on rest) ?_ (ih behind)
    simpa using shorter
  | case7 d cs quote backslash tail left behind =>
    rename_i ih
    simp only [Except.ok.injEq, Prod.mk.injEq] at h
    obtain ⟨rfl, rfl⟩ := h
    exact quoted?_plain quote backslash (ih behind)
  | _ => exact absurd h (by simp)

theorem length_of_raw? {signs : Nat} (h : raw? signs cs = some (text, after)) : signs < cs.length := by
  fun_induction raw? signs cs generalizing text after with
  | case1 => exact absurd h (by simp)
  | case2 d cs closes =>
    have prefix_length := (List.isPrefixOf_iff_prefix.1 closes.2).length_le
    simp only [List.length_replicate, List.length_cons] at prefix_length ⊢
    omega
  | case3 d cs goes_on ih =>
    simp only [Option.map_eq_some_iff] at h
    obtain ⟨⟨tail, left⟩, found, -⟩ := h
    have := ih found
    simp only [List.length_cons]
    omega

/-- A raw text is read up to its closing quote. -/
theorem raw?_append {signs : Nat} (h : raw? signs cs = some (text, after)) (rest : List Char) :
    raw? signs (cs ++ rest) = some (text, after ++ rest) := by
  fun_induction raw? signs cs generalizing text after with
  | case1 => exact absurd h (by simp)
  | case2 d cs closes =>
    simp only [Option.some.injEq, Prod.mk.injEq] at h
    obtain ⟨rfl, rfl⟩ := h
    obtain ⟨rfl, closes⟩ := closes
    obtain ⟨behind, rfl⟩ := List.isPrefixOf_iff_prefix.1 closes
    have drop : ∀ behind : List Char, (List.replicate signs '#' ++ behind).drop signs = behind := by
      intro behind
      rw [List.drop_append_of_le_length (by simp), List.drop_eq_nil_of_le (by simp), List.nil_append]
    rw [drop, List.cons_append, raw?, List.append_assoc, if_pos ⟨rfl, List.isPrefixOf_iff_prefix.2 (List.prefix_append _ _)⟩, drop]
  | case3 d cs goes_on ih =>
    simp only [Option.map_eq_some_iff] at h
    obtain ⟨⟨tail, left⟩, found, same⟩ := h
    simp only [Prod.mk.injEq] at same
    obtain ⟨rfl, rfl⟩ := same
    -- the quote does not close the text with more behind it either, since there is enough of the text behind the quote to tell
    have still : ¬(d = '"' ∧ (List.replicate signs '#').isPrefixOf (cs ++ rest) = true) := by
      rintro ⟨quote, closes⟩
      have long := length_of_raw? found
      refine goes_on ⟨quote, List.isPrefixOf_iff_prefix.2 ?_⟩
      refine List.prefix_of_prefix_length_le (List.isPrefixOf_iff_prefix.1 closes) (List.prefix_append cs rest) ?_
      rw [List.length_replicate]
      omega
    rw [List.cons_append, raw?, if_neg still, ih found]
    rfl

/-- How a text may be written: quoted, or raw between some number signs. -/
inductive TextLiteral (place : EscapePlace) (s : String) : List Char → Prop
  | quoted {cs : List Char} (h : quoted? place cs = .ok (s.toList, [])) : TextLiteral place s ('"' :: cs)
  | raw {signs : Nat} {cs : List Char} (h : raw? signs cs = some (s.toList, [])) :
    TextLiteral place s ('r' :: (List.replicate signs '#' ++ '"' :: cs))

/-- How a character may be written. -/
inductive CharacterLiteral : List Char → Prop
  | plain {c : Char} (h : c ≠ '\\') : CharacterLiteral ['\'', c, '\'']
  | escaped {c : Char} {cs : List Char} (h : escape? .character cs = .ok (c, [])) : CharacterLiteral ('\'' :: '\\' :: (cs ++ ['\'']))

/-- How a byte may be written. -/
inductive ByteLiteral : List Char → Prop
  | plain {c : Char} (h : c ≠ '\\') (ascii : c.toNat ≤ 127) : ByteLiteral ['b', '\'', c, '\'']
  | escaped {c : Char} {cs : List Char} (h : escape? .bytes cs = .ok (c, [])) (no_code_point : cs.head? ≠ some 'u') :
    ByteLiteral ('b' :: '\'' :: '\\' :: (cs ++ ['\'']))

namespace Reader

/-- Characters are taken as far as they have the property. -/
theorem reads_takeWhile {p : Char → Bool} {cs rest : List Char} (all : ∀ c ∈ cs, p c = true) (stop : ∀ c ∈ rest.head?, p c = false) :
    Reads (takeWhile p) (cs ++ rest) cs rest := by
  refine (reads_rest _).bind ?_
  rw [takeWhile_stop all stop]
  refine (reads_advance _ _).bind ?_
  rw [List.drop_left]
  exact Reads.pure cs rest

/-- A text is taken however it is written. -/
theorem reads_textIn {place : EscapePlace} {s : String} {cs : List Char} (h : TextLiteral place s cs) (rest : List Char) :
    Reads (textIn place) (cs ++ rest) s rest := by
  have same : String.ofList s.toList = s := String.ofList_toList
  cases h with
  | @quoted cs h =>
    refine (reads_consume ['"'] (cs ++ rest)).bind ((reads_rest _).bind ?_)
    rw [quoted?_append h rest]
    refine (reads_advanceTo cs rest).bind ?_
    rw [same]
    exact Reads.pure s rest
  | @raw signs cs h =>
    have text : 'r' :: (List.replicate signs '#' ++ '"' :: cs) ++ rest = 'r' :: (List.replicate signs '#' ++ '"' :: (cs ++ rest)) := by
      simp
    have mark : ∀ c ∈ List.replicate signs '#', (c == '#') = true := fun c hc => by rw [List.eq_of_mem_replicate hc]; rfl
    rw [text]
    refine (reads_consume_other rfl).bind ((reads_consume ['r'] _).bind ?_)
    refine (reads_takeWhile mark (by simp)).bind ((reads_expect '"' _ _).bind ((reads_rest _).bind ?_))
    rw [List.length_replicate, raw?_append h rest]
    refine (reads_advanceTo cs rest).bind ?_
    rw [same]
    exact Reads.pure s rest

theorem reads_byteText {s : String} {cs : List Char} (h : TextLiteral .bytes s cs) (rest : List Char) :
    Reads byteText ('b' :: cs ++ rest) () rest := by
  refine (reads_expect 'b' _ (cs ++ rest)).bind ?_
  exact Reads.bind (reads_textIn h rest) (Reads.pure () rest)

theorem reads_next (c : Char) (rest : List Char) : Reads next (c :: rest) c rest := by
  refine (reads_peek _).bind ?_
  exact (reads_advance 1 (c :: rest)).bind (Reads.pure c rest)

theorem reads_escape {place : EscapePlace} {c : Char} {cs : List Char} (h : escape? place cs = .ok (c, [])) (rest : List Char) :
    Reads (escape place) (cs ++ rest) c rest := by
  refine (reads_rest _).bind ?_
  rw [escape?_append h rest]
  exact (reads_advanceTo cs rest).bind (Reads.pure c rest)

/-- A character is taken however it is written. -/
theorem reads_character {cs : List Char} (h : CharacterLiteral cs) (rest : List Char) :
    ∃ c, Reads character (cs ++ rest) c rest := by
  cases h with
  | @plain c h =>
    refine ⟨c, (reads_expect '\'' _ _).bind ((reads_next c _).bind ?_)⟩
    rw [if_neg h]
    exact (Reads.pure c _).bind ((reads_expect '\'' _ rest).bind (Reads.pure c rest))
  | @escaped c cs h =>
    have text : '\'' :: '\\' :: (cs ++ ['\'']) ++ rest = '\'' :: '\\' :: (cs ++ '\'' :: rest) := by simp
    rw [text]
    refine ⟨c, (reads_expect '\'' _ _).bind ((reads_next '\\' _).bind ?_)⟩
    rw [if_pos rfl]
    exact (reads_escape h _).bind ((reads_expect '\'' _ rest).bind (Reads.pure c rest))

/-- A byte is taken however it is written. -/
theorem reads_byte {cs : List Char} (h : ByteLiteral cs) (rest : List Char) : Reads byte (cs ++ rest) () rest := by
  cases h with
  | @plain c h ascii =>
    refine (reads_expect 'b' _ _).bind ((reads_expect '\'' _ _).bind ((reads_next c _).bind ?_))
    rw [if_neg h, if_neg (not_lt.2 ascii)]
    exact reads_expect '\'' _ rest
  | @escaped c cs h no_code_point =>
    have text : 'b' :: '\'' :: '\\' :: (cs ++ ['\'']) ++ rest = 'b' :: '\'' :: '\\' :: (cs ++ '\'' :: rest) := by simp
    rw [text]
    refine (reads_expect 'b' _ _).bind ((reads_expect '\'' _ _).bind ((reads_next '\\' _).bind ?_))
    rw [if_pos rfl]
    have head : (cs ++ '\'' :: rest).head? ≠ some 'u' := by
      cases cs with
      | nil => simp [escape?] at h
      | cons d cs => simpa using no_code_point
    refine (reads_peek _).bind ?_
    rw [if_neg head]
    exact (reads_escape h _).bind (reads_expect '\'' _ rest)

end Reader

end Notation

end DebugConsole
