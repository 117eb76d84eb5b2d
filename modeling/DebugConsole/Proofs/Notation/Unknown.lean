import DebugConsole.Proofs.Notation.Value

/-!
# Unknown values are skipped

Whatever a value is, all of it is skipped and nothing behind it, unless it is nested deeper than the reader goes, or the reader looks
ahead in an optional value and misses what is in it; then the reader may stop in the value (`Reader.skips_value`). The induction is on the
depth of the value, and each kind of value is skipped if its parts are.
-/

namespace DebugConsole

namespace Notation

namespace Reader

variable {cs rest : List Char}

/-! ## Steps of the reader -/

/-- Skips what starts with a bracket or a quote. -/
def skipBracket (inside : Inside) : Reader Unit := do
  match ← peek? with
  | none => fail .unexpectedEnd
  | some '(' => do
    advance 1
    spaces
    inside.deeper (skipContents inside.item)
    closing ")"
  | some '[' => do
    advance 1
    inside.deeper do
      let _ ← items ']' inside.item
    expect ']' (.expected "closing \x60]\x60")
  | some '{' => do
    advance 1
    inside.deeper do
      let _ ← items '}' do
        inside.item
        colon
        inside.item
    expect '}' (.expected "closing \x60\x7d\x60")
  | some '"' | some 'r' => let _ ← text
  | some 'b' => byteText
  | some '\'' => let _ ← character
  | some c => fail (.unexpectedCharacter c)

/-- Skips a name and what may follow it in parentheses, or what starts with a bracket or a quote. -/
def skipNamed (inside : Inside) : Reader Unit := do
  if (← optionalName).isSome then
    spaces
    if (← peek?) != some '(' then return
  skipBracket inside

/-- Skips what is no word, nor an optional value. -/
def skipWordless (inside : Inside) : Reader Unit := do
  if ← consume ['(', ')'] then return
  if ← numberOrRange then return
  skipNamed inside

theorem skipValue_eq (e : Extensions) (inside : Inside) :
    skipValue e inside = (do
      if (← wordFor [("true", ()), ("false", ())]).isSome then return
      if ← isWord "Some" then
        let _ ← optionalWith e inside.optional
        return
      if ← consumeWord "None" then return
      skipWordless inside) := rfl

variable {e : Extensions} {inside : Inside} {result : Option Unit}

/-- What starts with none of the words is skipped as what has no words. -/
theorem gives_wordless (free : firstWord cs ∉ ["true".toList, "false".toList, "Some".toList, "None".toList])
    (h : Gives (skipWordless inside) cs result rest) : Gives (skipValue e inside) cs result rest := by
  have parts : ∀ w ∈ ["true", "false", "Some", "None"], ∀ c ∈ w.toList, Text.isIdentifierPart c = true := by simp
  simp only [List.mem_cons, List.not_mem_nil, or_false, not_or] at free
  obtain ⟨no_true, no_false, no_some, no_none⟩ := free
  have truth : Reads (wordFor [("true", ()), ("false", ())]) cs none cs := by
    refine reads_wordFor_firstWord ?_ ?_
    · intro w hw
      simp only [List.mem_cons, List.not_mem_nil, or_false] at hw
      rcases hw with rfl | rfl
      · exact parts "true" (by simp)
      · exact parts "false" (by simp)
    · intro w hw
      simp only [List.mem_cons, List.not_mem_nil, or_false] at hw
      rcases hw with rfl | rfl
      · exact no_true
      · exact no_false
  have no_option : Reads (isWord "Some") cs false cs := by
    have found := reads_isWord_firstWord (parts "Some" (by simp)) cs
    rwa [decide_eq_false no_some] at found
  rw [skipValue_eq]
  refine truth.bind_gives (no_option.bind_gives ?_)
  exact (reads_consumeWord_firstWord (parts "None" (by simp)) no_none).bind_gives h

/-- What is neither a number nor the empty tuple is skipped by its name, bracket or quote. -/
theorem gives_named (free : firstWord cs ∉ valueWords) (byte : ['b', '\''].isPrefixOf cs = false)
    (numeral : cs.head?.any startsNumeral = false) (unit : ['(', ')'].isPrefixOf cs = false)
    (h : Gives (skipNamed inside) cs result rest) : Gives (skipValue e inside) cs result rest := by
  have none : NumberLess cs := ⟨fun word => free (List.mem_append_right _ word), byte, numeral⟩
  refine gives_wordless (fun word => free (List.mem_append_left _ word)) ?_
  exact (reads_consume_other unit).bind_gives ((reads_numberOrRange_none none).bind_gives h)

/-- What starts with a bracket or a quote is skipped by it. -/
theorem gives_bracket {c : Char} (among : c ∈ ['(', '[', '{', '"', '\'']) {more : List Char} (unit : c = '(' → more.head? ≠ some ')')
    (h : Gives (skipBracket inside) (c :: more) result rest) : Gives (skipValue e inside) (c :: more) result rest := by
  have outside : ∀ c ∈ ['(', '[', '{', '"', '\''], Text.isIdentifierPart c = false ∧ startsNumeral c = false ∧ c ≠ 'b' ∧
      Text.isIdentifierStart c = false := by simp [startsNumeral]
  obtain ⟨part, numeral, byte, start⟩ := outside c among
  obtain ⟨fault, nameless⟩ := name?_of_head start more
  refine gives_named ?_ ?_ numeral ?_ ((reads_optionalName_none nameless).bind_gives h)
  · rw [firstWord_cons part]
    decide
  · exact isPrefixOf_eq_false_of_head (by simpa using byte) ['\'']
  · rw [Bool.eq_false_iff]
    intro found
    obtain ⟨after, text⟩ := List.isPrefixOf_iff_prefix.1 found
    obtain ⟨rfl, rfl⟩ := List.cons.inj text
    exact unit rfl rfl

/-- A name is one word with what follows it, and it starts like no byte. -/
theorem name_start {name : String} {ks : List Char} (written : Name name ks) (ends : EndsName rest) :
    ∃ c more, ks = c :: more ∧ Text.isIdentifierStart c = true ∧ firstWord (ks ++ rest) = firstWord ks ∧
      ['b', '\''].isPrefixOf (ks ++ rest) = false := by
  have word_ends : Ends rest := by
    unfold Ends
    cases rest with
    | nil => rfl
    | cons c rest => exact ends.head_part c rfl
  cases written with
  | plain written =>
    have parts : ∀ d ∈ name.toList, Text.isIdentifierPart d = true := List.all_eq_true.1 written.2
    have byte := isPrefixOf_mark_eq_false written ends (List.mem_cons_of_mem _ (by simp [literalMarks] : "b'".toList ∈ literalMarks))
    obtain ⟨c, start, first⟩ := (Option.any_eq_true _ _).1 written.1
    obtain ⟨more, word⟩ := List.head?_eq_some_iff.1 start
    refine ⟨c, more, word, first, ?_, byte⟩
    have alone : firstWord (name.toList ++ []) = name.toList := firstWord_append parts rfl
    rw [List.append_nil] at alone
    rw [firstWord_append parts word_ends, alone]
  | raw nonempty written =>
    exact ⟨'r', _, rfl, by simp, by simp [firstWord], rfl⟩

/-- A name that stands for no other value is skipped as a name, and then what comes behind it. -/
theorem gives_name {name : String} {ks : List Char} (h : FreeName name ks) (ends : EndsName rest) {mid : List Char}
    (behind : Gives (do
      spaces
      if (← peek?) != some '(' then return
      skipBracket inside) rest result mid) : Gives (skipValue e inside) (ks ++ rest) result mid := by
  have taken := reads_optionalName_written h.written ends
  obtain ⟨c, more, rfl, start, first, byte⟩ := name_start h.written ends
  refine gives_named ?_ byte ?_ ?_ (taken.bind_gives behind)
  · rw [first]
    exact h.free
  · exact startsNumeral_of_isIdentifierStart start
  · refine isPrefixOf_eq_false_of_head ?_ [')']
    rintro ⟨⟩
    exact absurd start (by simp)

/-- Texts and bytes that start with a letter are skipped by it. -/
theorem gives_literal {word : List Char} (letters : word ∈ ["r".toList, "b".toList, "br".toList]) {c : Char} (sign : c ∈ ['"', '#'])
    {more : List Char} (marked : literalMarks.any (·.isPrefixOf (word ++ c :: more)) = true)
    (h : Gives (skipBracket inside) (word ++ c :: more) result rest) : Gives (skipValue e inside) (word ++ c :: more) result rest := by
  have outside : ∀ c ∈ ['"', '#'], Text.isIdentifierPart c = false ∧ c ≠ '\'' := by simp
  have words : ∀ word ∈ ["r".toList, "b".toList, "br".toList], (∀ c ∈ word, Text.isIdentifierPart c = true) ∧ word ∉ valueWords := by
    simp [valueWords, unsignedWords]
  have starts : Text.isIdentifierStart 'r' = true ∧ Text.isIdentifierStart 'b' = true := by simp
  have first : firstWord (word ++ c :: more) = word := firstWord_append (words word letters).1 (ends_cons (outside c sign).1 more)
  have quote : ('\'' == c) = false := beq_eq_false_iff_ne.2 (Ne.symm (outside c sign).2)
  have nameless : name? (word ++ c :: more) = .error (.expected "identifier") := by
    obtain ⟨first, tail, word_eq, start⟩ : ∃ first tail, word = first :: tail ∧ Text.isIdentifierStart first = true := by
      simp only [List.mem_cons, List.not_mem_nil, or_false] at letters
      rcases letters with rfl | rfl | rfl
      · exact ⟨_, _, rfl, starts.1⟩
      · exact ⟨_, _, rfl, starts.2⟩
      · exact ⟨_, _, rfl, starts.2⟩
    rw [word_eq, List.cons_append] at marked ⊢
    exact name?_marked start marked
  refine gives_named ?_ ?_ ?_ ?_ ((reads_optionalName_none nameless).bind_gives h)
  · rw [first]
    exact (words word letters).2
  all_goals
    simp only [List.mem_cons, List.not_mem_nil, or_false] at letters
    rcases letters with rfl | rfl | rfl <;> simp [List.isPrefixOf, quote, startsNumeral]

/-- A name is skipped, and so is the gap behind it. -/
theorem takes_name (e : Extensions) (inside : Inside) {name : String} (h : FreeName name cs) : Takes (skipValue e inside) cs () := by
  refine ⟨opens_name h.written, ?_⟩
  intro gap hgap c mark more
  have no_parenthesis : (c :: more).head? ≠ some '(' := by
    have others : ∀ c ∈ marks, c ≠ '(' := by decide
    simpa using others c mark
  refine ⟨some (), rfl, [], .nil, gives_name h (endsName_follows (follows hgap mark more)) ?_⟩
  refine (reads_gap hgap (starts_mark mark more)).bind_gives ((reads_peek _).bind_gives ?_)
  rw [if_pos (bne_iff_ne.2 no_parenthesis)]
  exact Reads.pure () _

/-! ## Values with nothing inside -/

/-- A truth value and the absent value are skipped as words. -/
theorem gives_word {w : String} (h : w ∈ ["true", "false", "None"]) (ends : Ends rest) :
    Gives (skipValue e inside) (w.toList ++ rest) (some ()) rest := by
  simp only [List.mem_cons, List.not_mem_nil, or_false] at h
  rcases h with rfl | rfl | rfl
  · exact Reads.bind (reads_wordFor (w := ("true", ())) (by decide) (by decide) ends) (Reads.pure () rest)
  · exact Reads.bind (reads_wordFor (w := ("false", ())) (by decide) (by decide) ends) (Reads.pure () rest)
  · have no_truth : Reads (wordFor [("true", ()), ("false", ())]) ("None".toList ++ rest) none ("None".toList ++ rest) :=
      reads_wordFor_neither rfl rfl
    have no_option : Reads (isWord "Some") ("None".toList ++ rest) false ("None".toList ++ rest) := reads_isWord "Some" _
    rw [skipValue_eq]
    refine no_truth.bind_gives (no_option.bind_gives ?_)
    exact (reads_consumeWord ends).bind_gives (Reads.pure () rest)

/-- So is the empty tuple. -/
theorem gives_unit (rest : List Char) : Gives (skipValue e inside) ('(' :: ')' :: rest) (some ()) rest := by
  have outside : Text.isIdentifierPart '(' = false := by simp
  have no_word : firstWord ('(' :: ')' :: rest) ∉ ["true".toList, "false".toList, "Some".toList, "None".toList] := by
    rw [firstWord_cons outside]
    simp
  exact gives_wordless no_word ((reads_consume ['(', ')'] rest).bind_gives (Reads.pure () rest))

/-- A number or a range is skipped up to what cannot belong to it. -/
theorem gives_number (h : NumberOrRange cs) (behind : Follows rest) : Gives (skipValue e inside) (cs ++ rest) (some ()) rest := by
  have unit : ['(', ')'].isPrefixOf (cs ++ rest) = false := by
    obtain ⟨c, more, rfl, start⟩ := h.head
    refine isPrefixOf_eq_false_of_head ?_ [')']
    rintro ⟨⟩
    exact absurd start.first (by decide)
  refine gives_wordless (firstWord_number h rest) ((reads_consume_other unit).bind_gives ?_)
  exact (reads_numberOrRange h behind).bind_gives (Reads.pure () rest)

/-- A text is skipped by its quotes, whether it is raw or not. -/
theorem gives_text {s : String} (h : TextLiteral .text s cs) (rest : List Char) :
    Gives (skipValue e inside) (cs ++ rest) (some ()) rest := by
  have taken := reads_textIn h rest
  cases h with
  | quoted h =>
    refine gives_bracket (by simp) (by simp) ((reads_peek _).bind_gives ?_)
    exact Reads.bind taken (Reads.pure () rest)
  | @raw signs cs h =>
    obtain ⟨c, more, text, sign, marked, -⟩ := raw_start signs (cs ++ rest)
    have word : "r".toList ∈ ["r".toList, "b".toList, "br".toList] := by simp
    rw [List.cons_append, List.append_assoc, List.cons_append, text] at taken ⊢
    refine gives_literal word sign marked ((reads_peek _).bind_gives ?_)
    exact Reads.bind taken (Reads.pure () rest)

/-- So are bytes. -/
theorem gives_bytes {s : String} (h : TextLiteral .bytes s cs) (rest : List Char) :
    Gives (skipValue e inside) ('b' :: cs ++ rest) (some ()) rest := by
  have taken := reads_byteText h rest
  cases h with
  | @quoted cs h =>
    have word : "b".toList ∈ ["r".toList, "b".toList, "br".toList] := by simp
    have sign : '"' ∈ ['"', '#'] := by simp
    exact gives_literal word sign (by simp [literalMarks]) ((reads_peek _).bind_gives taken)
  | @raw signs cs h =>
    obtain ⟨c, more, text, sign, -, marked⟩ := raw_start signs (cs ++ rest)
    have word : "br".toList ∈ ["r".toList, "b".toList, "br".toList] := by simp
    rw [List.cons_append, List.cons_append, List.append_assoc, List.cons_append, text] at taken ⊢
    exact gives_literal word sign marked ((reads_peek _).bind_gives taken)

/-- And a character. -/
theorem gives_character (h : CharacterLiteral cs) (rest : List Char) : Gives (skipValue e inside) (cs ++ rest) (some ()) rest := by
  obtain ⟨c, taken⟩ := reads_character h rest
  obtain ⟨more, rfl⟩ : ∃ more, cs = '\'' :: more := by
    cases h <;> exact ⟨_, rfl⟩
  refine gives_bracket (by simp) (by simp) ((reads_peek _).bind_gives ?_)
  exact Reads.bind taken (Reads.pure () rest)

/-- A value with nothing inside is skipped. -/
theorem takes_atom (e : Extensions) (inside : Inside) (h : Atom cs) : Takes (skipValue e inside) cs () := by
  have whole : (∀ {rest}, Follows rest → Gives (skipValue e inside) (cs ++ rest) (some ()) rest) → Takes (skipValue e inside) cs () :=
    takes (opens_atom h)
  cases h with
  | name h => exact takes_name e inside h
  | word h => exact whole fun behind => gives_word h behind.ends
  | unit => exact whole fun _ => gives_unit _
  | number h => exact whole (gives_number h)
  | text h => exact whole fun _ => gives_text h _
  | bytes h => exact whole fun _ => gives_bytes h _
  | character h => exact whole fun _ => gives_character h _

/-! ## Parts that are skipped -/

variable {α : Type} {fits : Prop} {part : List Char → Prop} {parts : List Unit}

/-- A reader takes a piece of text, or it stops in it, which it does only if the text does not fit. -/
def Skips (fits : Prop) (r : Reader α) (cs : List Char) : Prop :=
  Yields r cs fun result => fits → result.isSome = true

/-- What fits less often is skipped as well. -/
theorem Skips.imp {other : Prop} {r : Reader α} (h : Skips fits r cs) (less : other → fits) : Skips other r cs :=
  Yields.imp h fun _ isSome fit => isSome (less fit)

theorem Takes.skips {r : Reader α} {a : α} (h : Takes r cs a) (fits : Prop) : Skips fits r cs := by
  refine Yields.imp h ?_
  rintro _ rfl _
  rfl

/-- What is too deep is not reached, however it is written. -/
theorem skips_too_deep (unfit : ¬fits) (opens : Opens cs) : Skips fits (fail (α := α) .tooDeep) cs :=
  yields opens fun _ => ⟨none, fun fit => absurd fit unfit, stops_fail _ _⟩

/-- Such a text is empty, or it starts with its first part. -/
theorem opens_listing (opens : ∀ cs, part cs → Opens cs) (h : Listing (fun _ : Unit => part) parts cs) : cs = [] ∨ Opens cs := by
  cases h with
  | nil => exact .inl rfl
  | last h _ => exact .inr ((opens _ h).append _)
  | cons h _ _ _ => exact .inr ((opens _ h).append _)

/-- Items in brackets are skipped up to the closing one. -/
theorem gives_skipped {item : Reader α} {close : Char} (mark : close ∈ marks) (not_comma : close ≠ ',')
    (each : ∀ cs, part cs → Skips fits item cs) {gap : List Char} (hgap : Gap gap) (h : Listing (fun _ : Unit => part) parts cs)
    (rest : List Char) :
    ∃ result, (fits → result.isSome = true) ∧ Gives (do
      let _ ← items close item) (gap ++ (cs ++ close :: rest)) result (close :: rest) := by
  obtain ⟨found, folds, taken⟩ := gives_items mark not_comma (fun _ => each) hgap h rest
  refine ⟨found.map fun _ => (), fun fit => ?_, taken.map fun _ => ()⟩
  rw [Option.isSome_map]
  apply folds.isSome
  rintro s _ _ ⟨value, isSome, rfl⟩
  rw [Option.isSome_map]
  exact isSome fit

/-- Parts none of which looks like a field are items. -/
theorem contentsOf_items (unlabelled : ∀ cs, part cs → Unlabelled cs) (h : Listing (fun _ : Unit => part) parts cs) (rest : List Char) :
    contentsOf (cs ++ ')' :: rest) = .items := by
  cases h with
  | nil => exact contentsOf_nameless (name?_of_head (by simp) rest)
  | last h hgap =>
    rw [List.append_assoc]
    exact (unlabelled _ h).contentsOf_eq hgap (by decide) (by decide) rest
  | cons h hb _ _ =>
    rw [List.append_assoc, List.append_assoc]
    exact (unlabelled _ h).contentsOf_eq hb (by decide) (by decide) _

theorem contentsOf_labelled (h : Field part cs) (rest : List Char) : contentsOf (cs ++ rest) = .named := by
  obtain ⟨hk, -, entry⟩ := h
  cases entry with
  | mk hb _ =>
    rw [List.append_assoc, List.append_assoc]
    exact contentsOf_field hk hb _

/-- Fields are known by the first one. -/
theorem contentsOf_fields (h : Listing (fun _ : Unit => Field part) parts cs) (nonempty : cs ≠ []) (rest : List Char) :
    contentsOf (cs ++ rest) = .named := by
  cases h with
  | nil => exact absurd rfl nonempty
  | last h _ =>
    rw [List.append_assoc]
    exact contentsOf_labelled h _
  | cons h _ _ _ =>
    rw [List.append_assoc]
    exact contentsOf_labelled h _

/-- What stands between parentheses is skipped, items or fields. -/
theorem gives_skipContents_items {item : Reader Unit} (each : ∀ cs, part cs → Skips fits item cs)
    (unlabelled : ∀ cs, part cs → Unlabelled cs) (h : Listing (fun _ : Unit => part) parts cs) (rest : List Char) :
    ∃ result, (fits → result.isSome = true) ∧ Gives (skipContents item) (cs ++ ')' :: rest) result (')' :: rest) := by
  obtain ⟨result, isSome, taken⟩ := gives_skipped (by decide : ')' ∈ marks) (by decide) each .nil h rest
  refine ⟨result, isSome, (reads_rest _).bind_gives ?_⟩
  rw [contentsOf_items unlabelled h]
  exact taken

/-- A field is skipped if its value is. -/
theorem skips_field {value : Reader Unit} (values : ∀ cs, part cs → Skips fits value cs) (h : Field part cs) :
    Skips fits (do
      let _ ← name
      colon
      value) cs := by
  obtain ⟨hk, hv, entry⟩ := h
  have key : Takes name _ _ := takes (opens_name hk) fun behind => reads_name_written hk (endsName_follows behind)
  refine yields_entry key (values _ hv) entry ?_
  rintro _ v rfl isSome
  exact isSome

theorem gives_skipContents_fields {item : Reader Unit} (each : ∀ cs, part cs → Skips fits item cs)
    (h : Listing (fun _ : Unit => Field part) parts cs) (rest : List Char) :
    ∃ result, (fits → result.isSome = true) ∧ Gives (skipContents item) (cs ++ ')' :: rest) result (')' :: rest) := by
  by_cases empty : cs = []
  · subst empty
    have nothing : ∀ cs, False → Skips fits item cs := fun _ => False.elim
    exact gives_skipContents_items nothing (fun _ => False.elim) .nil rest
  · obtain ⟨result, isSome, taken⟩ := gives_skipped (by decide : ')' ∈ marks) (by decide) (fun _ => skips_field each) .nil h rest
    refine ⟨result, isSome, (reads_rest _).bind_gives ?_⟩
    rw [contentsOf_fields h empty]
    exact taken

/-- An entry of a map is skipped if its two values are. -/
theorem skips_mapEntry {value : Reader Unit} (values : ∀ cs, part cs → Skips fits value cs) (h : MapEntry part cs) :
    Skips fits (do
      let _ ← value
      colon
      value) cs := by
  obtain ⟨hk, hv, entry⟩ := h
  refine yields_entry (values _ hk) (values _ hv) entry ?_
  intro k v key_isSome isSome fit
  obtain ⟨_, rfl⟩ := Option.isSome_iff_exists.1 (key_isSome fit)
  exact isSome fit

/-! ## Values with parts -/

/-- What is one level further in is reached if it fits. -/
structure Reaches (fits : Prop) (inside : Inside) : Prop where
  gives : ∀ {r : Reader Unit} {cs rest : List Char} {result : Option Unit}, Gives r cs result rest →
    ∃ reached, (fits → reached = result) ∧ Gives (inside.deeper r) cs reached rest

/-- So what is skipped there is skipped from here. -/
theorem Reaches.skipped (deeper : Reaches fits inside) {r : Reader Unit} {result : Option Unit}
    (isSome : fits → result.isSome = true) (taken : Gives r cs result rest) :
    ∃ reached, (fits → reached.isSome = true) ∧ Gives (inside.deeper r) cs reached rest := by
  obtain ⟨reached, same, found⟩ := deeper.gives taken
  refine ⟨reached, fun fit => ?_, found⟩
  rw [same fit]
  exact isSome fit

/-- A tuple or a record is skipped if its parts are. -/
theorem skips_parentheses (deeper : Reaches fits inside) {head gap : List Char} (hh : Head head) (hgap : Gap gap)
    (opens : cs = [] ∨ Opens cs)
    (contents : ∀ rest, ∃ result, (fits → result.isSome = true) ∧
      Gives (skipContents inside.item) (cs ++ ')' :: rest) result (')' :: rest)) :
    Skips fits (skipValue e inside) (head ++ '(' :: (gap ++ cs ++ [')'])) := by
  by_cases unit : head = [] ∧ gap ++ cs = []
  · rw [unit.1, unit.2]
    exact (takes_atom e inside .unit).skips fits
  refine yields (opens_head hh _) fun {rest} _ => ?_
  obtain ⟨result, isSome, taken⟩ := contents rest
  obtain ⟨reached, isSome, found⟩ := deeper.skipped isSome taken
  have starts : Starts (cs ++ ')' :: rest) := by
    rcases opens with rfl | opens
    · exact starts_mark (by decide) rest
    · exact (opens.append _).starts
  have bracket : Gives (skipBracket inside) ('(' :: (gap ++ (cs ++ ')' :: rest))) reached rest := by
    refine (reads_peek _).bind_gives ((reads_advance 1 _).bind_gives ((reads_gap hgap starts).bind_gives ?_))
    rw [← Option.bind_fun_some reached]
    exact found.bind fun _ _ => reads_expect ')' _ rest
  have text : head ++ '(' :: (gap ++ cs ++ [')']) ++ rest = head ++ '(' :: (gap ++ (cs ++ ')' :: rest)) := by
    simp only [List.append_assoc, List.cons_append, List.nil_append]
  refine ⟨reached, isSome, ?_⟩
  rw [text]
  cases hh with
  | none =>
    refine gives_bracket (by simp) (fun _ => ?_) bracket
    rcases gap_head hgap with rfl | ⟨c, more, rfl, space⟩
    · have opens := opens.resolve_left fun empty => unit ⟨rfl, empty⟩
      exact (opens.append _).head_ne (by decide)
    · have others : ∀ c ∈ '/' :: spaceCharacters, c ≠ ')' := by decide
      simpa using others c space
  | @named name ks space h hspace =>
    rw [List.append_assoc]
    refine gives_name h (endsName_gap hspace List.mem_cons_self _) ?_
    exact (reads_gap hspace (starts_open _)).bind_gives ((reads_peek _).bind_gives bracket)

/-- What stands in brackets comes to what its contents come to, if that is how the reader goes on at the opening one. -/
theorem yields_enclosed {item : Reader α} {opening close : Char} {fault : Fault} {outcome : Option Unit → Prop}
    (among : opening ∈ ['[', '{'])
    (goes_on : ∀ {more rest result}, Gives (do
      inside.deeper do
        let _ ← items close item
      expect close fault) more result rest → Gives (skipBracket inside) (opening :: more) result rest)
    (contents : ∀ rest, ∃ result, outcome result ∧ Gives (inside.deeper do
      let _ ← items close item) (cs ++ close :: rest) result (close :: rest)) :
    Yields (skipValue e inside) (opening :: (cs ++ [close])) outcome := by
  have outside : ∀ c ∈ ['[', '{'], c ∉ edges ∧ c ∈ ['(', '[', '{', '"', '\''] ∧ c ≠ '(' := by decide
  obtain ⟨inside_text, bracket, no_parenthesis⟩ := outside opening among
  refine yields (opens_cons inside_text _) fun {rest} _ => ?_
  obtain ⟨result, come, taken⟩ := contents rest
  have text : opening :: (cs ++ [close]) ++ rest = opening :: (cs ++ close :: rest) := by
    simp only [List.append_assoc, List.cons_append, List.nil_append]
  refine ⟨result, come, ?_⟩
  rw [text, ← Option.bind_fun_some result]
  refine gives_bracket bracket (fun same => absurd same no_parenthesis) (goes_on ?_)
  exact taken.bind fun _ _ => reads_expect close fault rest

/-- Items in brackets are skipped with the brackets. -/
theorem skips_enclosed (deeper : Reaches fits inside) {item : Reader α} {opening close : Char} {fault : Fault}
    (among : opening ∈ ['[', '{']) (mark : close ∈ marks) (not_comma : close ≠ ',')
    (goes_on : ∀ {more rest result}, Gives (do
      inside.deeper do
        let _ ← items close item
      expect close fault) more result rest → Gives (skipBracket inside) (opening :: more) result rest)
    (each : ∀ cs, part cs → Skips fits item cs) (h : Parts part cs) :
    Skips fits (skipValue e inside) (opening :: (cs ++ [close])) := by
  obtain ⟨hgap, h⟩ := h
  refine yields_enclosed among goes_on fun rest => ?_
  obtain ⟨result, isSome, taken⟩ := gives_skipped mark not_comma each hgap h rest
  rw [List.append_assoc]
  exact deeper.skipped isSome taken

/-- The reader goes on to the items of a list. -/
theorem gives_skipBracket_list {more : List Char} (h : Gives (do
      inside.deeper do
        let _ ← items ']' inside.item
      expect ']' (.expected "closing \x60]\x60")) more result rest) : Gives (skipBracket inside) ('[' :: more) result rest :=
  (reads_peek _).bind_gives ((reads_advance 1 _).bind_gives h)

/-- A list is skipped with its items. -/
theorem skips_list (deeper : Reaches fits inside) (each : ∀ cs, part cs → Skips fits inside.item cs) (h : Parts part cs) :
    Skips fits (skipValue e inside) ('[' :: (cs ++ [']'])) :=
  skips_enclosed deeper (by simp) (by decide) (by decide) gives_skipBracket_list each h

/-- A map is skipped with its entries. -/
theorem skips_map (deeper : Reaches fits inside) (each : ∀ cs, part cs → Skips fits inside.item cs) (h : Parts (MapEntry part) cs) :
    Skips fits (skipValue e inside) ('{' :: (cs ++ ['}'])) :=
  skips_enclosed deeper (by simp) (by decide) (by decide)
    (fun taken => (reads_peek _).bind_gives ((reads_advance 1 _).bind_gives taken)) (fun _ => skips_mapEntry each) h

/-- An optional value is skipped with what is in its parentheses. -/
theorem skips_optional {inner : List Char → Prop}
    (each : ∀ cs, inner cs → Fills (inside.optional e.bareVariants) cs fun result => fits → result.isSome = true)
    {gap text : List Char} (hgap : Gap gap) (h : Enclosed inner text) :
    Skips fits (skipValue e inside) ("Some".toList ++ (gap ++ text)) := by
  refine yields (opens_cons (by decide) _) fun {rest} behind => ?_
  obtain ⟨result, isSome, taken⟩ := gives_optional_some inside.optional each hgap h behind
  have ends : Ends (gap ++ text ++ rest) := by
    rw [List.append_assoc]
    cases h
    exact ends_gap hgap (ends_cons (by simp) _)
  have no_truth : Reads (wordFor [("true", ()), ("false", ())]) ("Some".toList ++ (gap ++ text) ++ rest) none
      ("Some".toList ++ (gap ++ text) ++ rest) := reads_wordFor_neither rfl rfl
  have option : Reads (isWord "Some") ("Some".toList ++ (gap ++ text) ++ rest) true ("Some".toList ++ (gap ++ text) ++ rest) := by
    have parts : ∀ c ∈ "Some".toList, Text.isIdentifierPart c = true := by simp
    have found := reads_isWord_firstWord parts ("Some".toList ++ (gap ++ text) ++ rest)
    rw [List.append_assoc] at found ⊢
    rwa [firstWord_append parts ends, decide_eq_true rfl] at found
  have same : result = (result.map some).bind fun _ => some () := by cases result <;> rfl
  refine ⟨result, isSome, ?_⟩
  rw [skipValue_eq, same]
  refine no_truth.bind_gives (option.bind_gives ?_)
  exact taken.bind fun _ _ => Reads.pure () rest

/-! ## What is written bare -/

/-- The state of the reader that looks ahead: the number of open brackets, and its answer as soon as there is one. -/
abbrev Ahead := Nat × Option Bool

/-- A round of looking ahead. -/
def lookRound (state : Ahead) : Reader (Option Ahead) := do
  let (depth, answer) := state
  if answer.isSome then return none
  spaces
  attempt character
  attempt text
  attempt byteText
  let c ← next
  if c = '(' || c = '[' || c = '{' then return some (depth + 1, none)
  else if c = ')' || c = ']' || c = '}' then return some (depth - 1, if depth = 0 then some false else none)
  else if c = ',' && depth = 0 then
    spaces
    return some (depth, some ((← peek?) != some ')'))
  else return some (depth, none)

/-- What is found by looking ahead does not depend on what was read before, since the first step is one over spaces. -/
theorem anotherFollows_congr (cs before before' : List Char) : anotherFollows ⟨before, cs⟩ = anotherFollows ⟨before', cs⟩ := by
  have rounds : iterate lookRound (0, none) ⟨before, cs⟩ = iterate lookRound (0, none) ⟨before', cs⟩ := by
    have first : lookRound (0, none) ⟨before, cs⟩ = lookRound (0, none) ⟨before', cs⟩ := rfl
    rw [iterate, iterate, first]
  have found : ∀ c, anotherFollows c = iterate lookRound (0, none) c >>= fun x => .ok (x.1.2.getD false, x.2) := fun _ => rfl
  rw [found, found, rounds]

/-- What the reader that looks ahead answers in a text. -/
def lookAhead (cs : List Char) : Except Stop (Option Contents) :=
  match behindName? cs with
  | some (':' :: _) => .ok (some .named)
  | some (')' :: _) => .ok none
  | _ => (anotherFollows (.start cs)).map fun (several, _) => if several then some .items else none

theorem bareContents?_eq (c : Cursor) : bareContents? c = (lookAhead c.rest).map fun answer => (answer, c) := by
  obtain ⟨before, cs⟩ := c
  unfold bareContents?
  rw [anotherFollows_congr cs before cs]
  split
  · next colon =>
    rw [lookAhead, colon]
    rfl
  · next close =>
    rw [lookAhead, close]
    rfl
  · next colon close =>
    have other : lookAhead cs = (anotherFollows ⟨cs, cs⟩).map fun found => if found.1 then some .items else none := by
      unfold lookAhead
      split
      · next found => exact absurd found (colon _)
      · next found => exact absurd found (close _)
      · rfl
    rw [other]
    cases anotherFollows ⟨cs, cs⟩ <;> rfl

/-- The answer, if there is one, is the same whatever was read before. -/
theorem reads_bareContents?_iff {answer : Option Contents} : Reads bareContents? cs answer cs ↔ lookAhead cs = .ok answer := by
  unfold Reads
  simp only [bareContents?_eq]
  constructor
  · intro h
    obtain ⟨after, found⟩ := h []
    cases looked : lookAhead cs with
    | error stop => simp [looked, Except.map] at found
    | ok other => simp_all [Except.map]
  · intro h before
    exact ⟨before, by rw [h]; rfl⟩

/-- The reader that looks ahead has an answer or stops. -/
theorem bareContents?_cases (cs : List Char) : (∃ answer, lookAhead cs = .ok answer) ∨ Stops bareContents? cs := by
  cases looked : lookAhead cs with
  | error stop => exact .inr fun before => ⟨stop, by rw [bareContents?_eq, looked]; rfl⟩
  | ok answer => exact .inl ⟨answer, rfl⟩

/-- Fields are told by the first name alone. -/
theorem lookAhead_eq_named_iff : lookAhead cs = .ok (some .named) ↔ contentsOf cs = .named := by
  unfold lookAhead contentsOf
  split
  · next h => simp [h]
  · next h => simp [h]
  · next colon close =>
    constructor
    · intro h
      cases followed : anotherFollows (.start cs) with
      | error stop => simp [followed, Except.map] at h
      | ok found =>
        rw [followed] at h
        obtain ⟨several, _⟩ := found
        cases several <;> simp [Except.map] at h
    · intro h
      cases name : behindName? cs with
      | none => simp [name] at h
      | some behind =>
        cases behind with
        | nil => simp [name] at h
        | cons c more =>
          have head : c = ':' := by simpa [name] using h
          exact absurd (head ▸ name) (colon more)

/-- What is taken first is not closed behind it. -/
theorem Reads.closed_bind {β : Type} {r : Reader α} {f : α → Reader β} {a : α} {mid : List Char} {result : Option β}
    (first : Reads r cs a mid) (second : Gives (closed (f a)) mid result rest) : Gives (closed (r >>= f)) cs result rest := by
  unfold closed at second ⊢
  rw [bind_assoc]
  exact first.bind_gives second

/-- If there is nothing in the parentheses, nothing is skipped. -/
theorem fills_nothing : Fills (skipWith e inside true) [] fun result => fits → result.isSome = true :=
  fills_upTo (.inl rfl) fun _ => ⟨some (), fun _ => rfl, (reads_peek _).bind (Reads.pure () _)⟩

/-- What is written bare is skipped as the answer of the reader that looks ahead says. -/
theorem fills_ahead (opens : Opens cs)
    (values : ∀ {rest}, Follows rest → lookAhead (cs ++ ')' :: rest) = .ok none →
      ∃ result, (fits → result.isSome = true) ∧ Gives (closed (skipValue e inside)) (cs ++ ')' :: rest) result rest)
    (contents : ∀ {rest answer}, Follows rest → lookAhead (cs ++ ')' :: rest) = .ok (some answer) →
      ∃ result, (fits → result.isSome = true) ∧
        Gives (inside.deeper (skipContents inside.item)) (cs ++ ')' :: rest) result (')' :: rest))
    (judged : fits → ∃ answer, Judged answer cs) : Fills (skipWith e inside true) cs fun result => fits → result.isSome = true := by
  refine ⟨.inr opens, fun {rest} behind => ?_⟩
  have other : (cs ++ ')' :: rest).head? ≠ some ')' := (opens.append _).head_ne (by decide)
  have start : ∀ {r : Reader Unit} {result}, Gives (closed r) (cs ++ ')' :: rest) result rest →
      Gives (closed (do
        if (← peek?) = some ')' then return
        r)) (cs ++ ')' :: rest) result rest := by
    intro r result taken
    refine (reads_peek _).closed_bind ?_
    rw [if_neg other]
    exact taken
  unfold skipWith
  rw [if_pos rfl]
  rcases bareContents?_cases (cs ++ ')' :: rest) with ⟨answer, looked⟩ | stops
  · have read := reads_bareContents?_iff.2 looked
    cases answer with
    | none =>
      obtain ⟨result, isSome, taken⟩ := values behind looked
      exact ⟨result, isSome, start (read.closed_bind taken)⟩
    | some answer =>
      obtain ⟨result, isSome, taken⟩ := contents behind looked
      refine ⟨result, isSome, start (read.closed_bind ?_)⟩
      rw [Option.isSome_some, if_pos rfl, ← Option.bind_fun_some result]
      exact taken.bind fun value _ => (reads_no_comma_close rest).bind ((reads_expect ')' _ rest).bind (Reads.pure value rest))
  · refine ⟨none, fun fit => ?_, start (Stops.bind (stops.bind _) _)⟩
    obtain ⟨answer, looked⟩ := judged fit
    obtain ⟨stop, failed⟩ := stops []
    obtain ⟨after, found⟩ := looked rest behind []
    rw [failed] at found
    cases found

theorem stops_expect {c : Char} (h : cs.head? ≠ some c) (fault : Fault) : Stops (expect c fault) cs :=
  (reads_consume_other (isPrefixOf_eq_false_of_head h [])).bind_stops (stops_fail fault cs)

/-- Values that stand where one is expected are skipped if there is but one of them. -/
theorem gives_closed_values {r : Reader α} (each : ∀ cs, part cs → Skips fits r cs) (h : Listing (fun _ : Unit => part) parts cs)
    (nonempty : cs ≠ []) (behind : Follows rest) :
    ∃ result, (fits → Lone part cs → result.isSome = true) ∧ Gives (closed r) (cs ++ ')' :: rest) result rest := by
  by_cases lone : Lone part cs
  · obtain ⟨result, isSome, taken⟩ := (fills_lone each lone).gives behind
    exact ⟨result, fun fit _ => isSome fit, taken⟩
  cases h with
  | nil => exact absurd rfl nonempty
  | last h hgap => exact absurd (.last h hgap) lone
  | @cons _ _ text before space more h hb hb' others =>
    have another : Opens more := by
      cases others with
      | nil => exact absurd (.cons h hb hb' .nil) lone
      | last h _ => exact (each _ h).opens.append _
      | cons h _ _ _ => exact (each _ h).opens.append _
    have starts := another.append (')' :: rest)
    have unclosed : ∀ {β : Type} (f : Unit → Reader β), Stops (closing ")" >>= f) (more ++ ')' :: rest) :=
      fun f => (stops_expect (starts.head_ne (by decide)) _).bind f
    obtain ⟨result, -, left, hleft, taken⟩ := (each text h).gives hb (c := ',') (by decide) (space ++ (more ++ ')' :: rest))
    refine ⟨none, fun _ alone => absurd alone lone, ?_⟩
    simp only [List.append_assoc, List.cons_append]
    cases result with
    | none => exact Stops.bind (r := r) taken _
    | some value => exact taken.bind_stops ((reads_comma_gaps hleft hb' starts.starts).bind_stops (unclosed _))

/-- Values in parentheses that are written bare are skipped: one of them as it stands, or some of them as items. -/
theorem fills_values {one several : Prop} (values : ∀ cs, part cs → Skips one (skipValue e inside) cs)
    (items : ∀ cs, part cs → Skips several inside.item cs) (unlabelled : ∀ cs, part cs → Unlabelled cs)
    (deeper : Reaches several inside) (h : Listing (fun _ : Unit => part) parts cs)
    (judged : fits → one ∧ Lone part cs ∧ Judged none cs ∨ several ∧ Judged (some .items) cs) :
    Fills (skipWith e inside true) cs fun result => fits → result.isSome = true := by
  rcases opens_listing (fun _ h => (values _ h).opens) h with rfl | opens
  · exact fills_nothing
  have nonempty : cs ≠ [] := by
    rintro rfl
    obtain ⟨c, more, none, -⟩ := opens
    cases none
  have answered : ∀ {rest}, Follows rest → ∀ {answer}, lookAhead (cs ++ ')' :: rest) = .ok answer → ∀ {other}, Judged other cs →
      other = answer := by
    intro rest behind answer looked other judged
    rw [reads_bareContents?_iff.1 (judged rest behind)] at looked
    exact Except.ok.inj looked
  refine fills_ahead opens ?_ ?_ fun fit => ?_
  · intro rest behind looked
    obtain ⟨result, isSome, taken⟩ := gives_closed_values values h nonempty behind
    refine ⟨result, fun fit => ?_, taken⟩
    rcases judged fit with ⟨fit, lone, -⟩ | ⟨-, some⟩
    · exact isSome fit lone
    · cases answered behind looked some
  · intro rest answer behind looked
    have unnamed : answer ≠ .named := by
      rintro rfl
      have named := lookAhead_eq_named_iff.1 looked
      rw [contentsOf_items unlabelled h] at named
      cases named
    obtain ⟨result, isSome, taken⟩ := gives_skipContents_items items unlabelled h rest
    obtain ⟨reached, isSome, found⟩ := deeper.skipped isSome taken
    refine ⟨reached, fun fit => ?_, found⟩
    rcases judged fit with ⟨-, -, none⟩ | ⟨fit, -⟩
    · cases answered behind looked none
    · exact isSome fit
  · rcases judged fit with ⟨-, -, none⟩ | ⟨-, some⟩
    · exact ⟨_, none⟩
    · exact ⟨_, some⟩

/-- Fields that are written bare are skipped. They are known without looking ahead. -/
theorem fills_fields (each : ∀ cs, part cs → Skips fits inside.item cs) (deeper : ∀ cs, part cs → Reaches fits inside)
    (h : Listing (fun _ : Unit => Field part) parts cs) :
    Fills (skipWith e inside true) cs fun result => fits → result.isSome = true := by
  by_cases empty : cs = []
  · subst empty
    exact fills_nothing
  have opens_field : ∀ {cs}, Field part cs → Opens cs ∧ ∃ vs, part vs := by
    rintro _ ⟨hk, hv, entry⟩
    cases entry
    exact ⟨(opens_name hk).append _, _, hv⟩
  obtain ⟨opens, vs, hv⟩ : Opens cs ∧ ∃ vs, part vs := by
    cases h with
    | nil => exact absurd rfl empty
    | last h _ => exact ⟨(opens_field h).1.append _, (opens_field h).2⟩
    | cons h _ _ _ => exact ⟨(opens_field h).1.append _, (opens_field h).2⟩
  have looked : ∀ rest, lookAhead (cs ++ ')' :: rest) = .ok (some .named) :=
    fun rest => lookAhead_eq_named_iff.2 (contentsOf_fields h empty _)
  refine fills_ahead opens ?_ ?_ fun _ => ⟨some .named, fun rest _ => reads_bareContents?_iff.2 (looked rest)⟩
  · intro rest _ none
    rw [looked] at none
    cases none
  · intro rest _ _ _
    obtain ⟨result, isSome, taken⟩ := gives_skipContents_fields each h rest
    exact (deeper vs hv).skipped isSome taken

/-! ## All values -/

variable {sure : Prop} {content item inner : List Char → Prop}

/-- What stands in the parentheses of an optional value is skipped if the values in it are. -/
theorem fills_optionalPart (sure_of_fits : fits → sure) (contents : ∀ cs, content cs → Skips fits (skipValue e inside) cs)
    (inners : ∀ cs, inner cs → Skips fits inside.item cs) (deeper : ∀ cs, inner cs → Reaches fits inside)
    (misjudged : Reaches False inside ∧ (∀ cs, content cs → Skips False inside.item cs) ∧
      ∀ cs, inner cs → Skips False (skipValue e inside) cs)
    (unlabelled : (∀ cs, content cs → Unlabelled cs) ∧ ∀ cs, inner cs → Unlabelled cs)
    (h : OptionalPart e sure content inner cs) :
    Fills (skipWith e inside e.bareVariants) cs fun result => fits → result.isSome = true := by
  cases h with
  | whole h judged =>
    cases bare : e.bareVariants with
    | false => exact fills_lone contents h
    | true => exact fills_values contents misjudged.2.1 unlabelled.1 misjudged.1 h fun fit => .inl ⟨fit, h, judged (sure_of_fits fit) bare⟩
  | fields bare h =>
    rw [bare]
    exact fills_fields inners deeper h
  | items bare h judged =>
    rw [bare]
    by_cases empty : cs = []
    · subst empty
      exact fills_nothing
    obtain ⟨vs, hv⟩ : ∃ vs, inner vs := by
      cases h with
      | nil => exact absurd rfl empty
      | last h _ => exact ⟨_, h⟩
      | cons h _ _ _ => exact ⟨_, h⟩
    exact fills_values misjudged.2.2 inners unlabelled.2 (deeper vs hv) h fun fit => .inr ⟨fit, judged (sure_of_fits fit)⟩

/-- One level of a value is skipped if the values in it are. -/
theorem skips_valueOf (deeper : Reaches fits inside)
    (contents : ∀ cs, OptionalPart e sure content inner cs →
      Fills (inside.optional e.bareVariants) cs fun result => fits → result.isSome = true)
    (items : ∀ cs, item cs → Skips fits inside.item cs) (unlabelled : ∀ cs, item cs → Unlabelled cs)
    (h : ValueOf e sure content item inner cs) : Skips fits (skipValue e inside) cs := by
  cases h with
  | atom h => exact (takes_atom e inside h).skips fits
  | optional hgap h => exact skips_optional contents hgap h
  | @tuple head cs hh h =>
    obtain ⟨hgap, h⟩ := h
    have opens := opens_listing (fun _ h => (items _ h).opens) h
    exact skips_parentheses deeper hh hgap opens (gives_skipContents_items items unlabelled h)
  | @record head cs hh h =>
    obtain ⟨hgap, h⟩ := h
    have opens := opens_listing (fun _ h => (skips_field items h).opens) h
    exact skips_parentheses deeper hh hgap opens (gives_skipContents_fields items h)
  | list h => exact skips_list deeper items h
  | map h => exact skips_map deeper items h

/-- The readers for what is inside of a value at some depth. -/
def insideAt (e : Extensions) : Nat → Inside
  | 0 => ⟨fun _ => fail .tooDeep, fail .tooDeep, fun _ => fail .tooDeep⟩
  | 1 => ⟨id, fail .tooDeep, skip e 0⟩
  | depth + 2 => ⟨id, skip e depth false, skip e (depth + 1)⟩

theorem skip_eq (e : Extensions) (depth : Nat) (bare : Bool) : skip e depth bare = skipWith e (insideAt e depth) bare := by
  match depth with
  | 0 | 1 | _ + 2 => rfl

/-- Something is inside of a value unless no depth is left. -/
theorem reaches_insideAt (e : Extensions) {depth : Nat} (deep : fits → 0 < depth) : Reaches fits (insideAt e depth) := by
  match depth with
  | 0 => exact ⟨fun _ => ⟨none, fun fit => absurd (deep fit) (Nat.lt_irrefl 0), stops_fail _ _⟩⟩
  | 1 | _ + 2 => exact ⟨fun taken => ⟨_, fun _ => rfl, taken⟩⟩

theorem optional_insideAt (e : Extensions) (depth : Nat) : (insideAt e (depth + 1)).optional = skip e depth := by
  match depth with
  | 0 | _ + 1 => rfl

/-- A text that is skipped at any depth that is enough for it, wherever a value stands. -/
structure SkippedFrom (e : Extensions) (sure : Prop) (n : Nat) (cs : List Char) : Prop where
  opens : Opens cs
  unlabelled : Unlabelled cs
  skips : ∀ depth, Skips (sure ∧ n ≤ depth) (skip e depth false) cs

variable {n depth : Nat}

theorem SkippedFrom.value (h : SkippedFrom e sure n cs) (depth : Nat) :
    Skips (sure ∧ n ≤ depth) (skipValue e (insideAt e depth)) cs := by
  have skips := h.skips depth
  rwa [skip_eq] at skips

/-- What is in a value is two levels further in. -/
theorem SkippedFrom.within (h : SkippedFrom e sure n cs) (depth : Nat) : Skips (sure ∧ n + 2 ≤ depth) (insideAt e depth).item cs := by
  match depth with
  | 0 | 1 => exact skips_too_deep (fun fit => absurd fit.2 (by omega)) h.opens
  | depth + 2 => exact (h.skips depth).imp fun fit => ⟨fit.1, Nat.le_of_add_le_add_right fit.2⟩

/-- What is in an optional value is one level further in. -/
theorem fills_inside (contents : ∀ cs, content cs → SkippedFrom e sure n cs)
    (inners : ∀ cs, inner cs → ∃ m, m + 2 = n ∧ SkippedFrom e sure m cs) (depth : Nat) (h : OptionalPart e sure content inner cs) :
    Fills ((insideAt e depth).optional e.bareVariants) cs fun result => sure ∧ n + 1 ≤ depth → result.isSome = true := by
  have part : ∀ depth, Fills (skip e depth e.bareVariants) cs fun result => sure ∧ n ≤ depth → result.isSome = true := by
    intro depth
    rw [skip_eq]
    refine fills_optionalPart And.left (fun cs h => (contents cs h).value depth) (fun cs h => ?_) (fun cs h => ?_)
      ⟨reaches_insideAt e False.elim, fun cs h => ((contents cs h).within depth).imp False.elim, fun cs h => ?_⟩
      ⟨fun cs h => (contents cs h).unlabelled, fun cs h => ?_⟩ h
    all_goals obtain ⟨m, rfl, inner⟩ := inners cs h
    · exact inner.within depth
    · exact reaches_insideAt e fun fit => Nat.lt_of_lt_of_le (by omega) fit.2
    · exact (inner.value depth).imp False.elim
    · exact inner.unlabelled
  match depth with
  | 0 => exact ⟨(part 0).opens, fun _ => ⟨none, fun fit => absurd fit.2 (by omega), Stops.bind (stops_fail _ _) _⟩⟩
  | depth + 1 =>
    rw [optional_insideAt]
    refine ⟨(part depth).opens, fun behind => ?_⟩
    obtain ⟨result, isSome, taken⟩ := (part depth).gives behind
    exact ⟨result, fun fit => isSome ⟨fit.1, Nat.le_of_add_le_add_right fit.2⟩, taken⟩

/-- A value is skipped where it is not nested deeper than the reader goes, if it is sure what is in the optional values in it. Otherwise the
reader may stop in it. -/
theorem skips_value (h : Value e sure n cs) : SkippedFrom e sure n cs := by
  induction n using Nat.strong_induction_on generalizing cs with
  | _ n ih =>
    refine ⟨opens_value h, unlabelled_value h, fun depth => ?_⟩
    have deeper : ∀ n, Reaches (sure ∧ n + 1 ≤ depth) (insideAt e depth) :=
      fun _ => reaches_insideAt e fun fit => Nat.lt_of_lt_of_le (Nat.succ_pos _) fit.2
    have items : ∀ m cs, Value e sure m cs → m + 2 = n → Skips (sure ∧ n ≤ depth) (insideAt e depth).item cs := by
      rintro m cs found rfl
      exact (ih m (by omega) found).within depth
    rw [skip_eq]
    match n, h with
    | 0, h => exact (takes_atom e _ h).skips _
    | 1, h =>
      refine skips_valueOf (deeper 0) (fun cs h => fills_inside (fun cs h => ?_) (fun _ => False.elim) depth h) (fun _ => False.elim)
        (fun _ => False.elim) h
      exact ih 0 (by omega) h
    | 2, h =>
      refine skips_valueOf (deeper 1) (fun cs h => fills_inside (fun cs h => ?_) (fun _ => False.elim) depth h)
        (fun cs h => items 0 cs h rfl) (fun _ => unlabelled_atom) h
      exact ih 1 (by omega) h
    | n + 3, h =>
      refine skips_valueOf (deeper (n + 2)) (fun cs h => fills_inside (fun cs h => ?_) (fun cs h => ⟨n, rfl, ?_⟩) depth h)
        (fun cs h => items (n + 1) cs h rfl) (fun _ => unlabelled_value) h
      · exact ih (n + 2) (by omega) h
      · exact ih n (by omega) h

end Reader

end Notation

end DebugConsole
