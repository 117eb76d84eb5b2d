import DebugConsole.Proofs.Notation.AnyNumber
import DebugConsole.Proofs.Notation.Listing

/-!
# Values as they may be written

`Value` is how a value of any kind may be written, nested to some depth. It is known from the front of a text what value comes next, and
a value is told from the name of a field by what follows it (`Reader.Unlabelled`).
-/

namespace DebugConsole

namespace Notation

/-- The words that stand for values, and the one that an optional value starts with. -/
def valueWords : List (List Char) :=
  ["true".toList, "false".toList, "Some".toList, "None".toList] ++ unsignedWords.map (·.1.toList)

/-- A name that stands for no value of another kind. -/
structure FreeName (name : String) (cs : List Char) : Prop where
  written : Name name cs
  free : firstWord cs ∉ valueWords

/-- A value with nothing inside. -/
inductive Atom : List Char → Prop
  | word {w : String} (h : w ∈ ["true", "false", "None"]) : Atom w.toList
  | unit : Atom ['(', ')']
  | number {cs : List Char} (h : NumberOrRange cs) : Atom cs
  | name {name : String} {cs : List Char} (h : FreeName name cs) : Atom cs
  | text {s : String} {cs : List Char} (h : TextLiteral .text s cs) : Atom cs
  | bytes {s : String} {cs : List Char} (h : TextLiteral .bytes s cs) : Atom ('b' :: cs)
  | character {cs : List Char} (h : CharacterLiteral cs) : Atom cs

/-- What may stand in front of the opening parenthesis of a tuple or a record. -/
inductive Head : List Char → Prop
  | none : Head []
  | named {name : String} {cs gap : List Char} (h : FreeName name cs) (hgap : Gap gap) : Head (cs ++ gap)

/-- A field of a record: its name and a value. -/
inductive Field (item : List Char → Prop) : List Char → Prop
  | mk {name : String} {ks vs cs : List Char} (hk : Name name ks) (hv : item vs) (h : Entry ks vs cs) : Field item cs

/-- An entry of a map: a value and another one. -/
inductive MapEntry (item : List Char → Prop) : List Char → Prop
  | mk {ks vs cs : List Char} (hk : item ks) (hv : item vs) (h : Entry ks vs cs) : MapEntry item cs

/-- Any number of parts, with a gap in front of the first one. -/
inductive Parts (part : List Char → Prop) : List Char → Prop
  | mk {gap cs : List Char} {parts : List Unit} (hgap : Gap gap) (h : Listing (fun _ => part) parts cs) : Parts part (gap ++ cs)

/-- The reader looks ahead in what stands in the parentheses of an optional value, and this is its answer whatever follows. -/
def Judged (answer : Option Reader.Contents) (cs : List Char) : Prop :=
  ∀ rest, Reader.Follows rest → Reader.Reads Reader.bareContents? (cs ++ ')' :: rest) answer (cs ++ ')' :: rest)

/-- What stands in the parentheses of an optional value: a value or, where values are written bare, what else would stand in the
parentheses of the value. There the reader has to look ahead to know what comes. Whether it is right is left open unless all is to be
`sure`. -/
inductive OptionalPart (e : Extensions) (sure : Prop) (content inner : List Char → Prop) : List Char → Prop
  | whole {cs : List Char} (h : Lone content cs) (judged : sure → e.bareVariants = true → Judged none cs) :
    OptionalPart e sure content inner cs
  | fields {cs : List Char} {parts : List Unit} (bare : e.bareVariants = true) (h : Listing (fun _ => Field inner) parts cs) :
    OptionalPart e sure content inner cs
  | items {cs : List Char} {parts : List Unit} (bare : e.bareVariants = true) (h : Listing (fun _ => inner) parts cs)
    (judged : sure → Judged (some .items) cs) : OptionalPart e sure content inner cs

/-- A value of any kind, with values of one kind in optional ones and of another kind in all others. Those in what is written bare are of a
third kind. -/
inductive ValueOf (e : Extensions) (sure : Prop) (content item inner : List Char → Prop) : List Char → Prop
  | atom {cs : List Char} (h : Atom cs) : ValueOf e sure content item inner cs
  | optional {gap text : List Char} (hgap : Gap gap) (h : Enclosed (OptionalPart e sure content inner) text) :
    ValueOf e sure content item inner ("Some".toList ++ (gap ++ text))
  | tuple {head cs : List Char} (hh : Head head) (h : Parts item cs) : ValueOf e sure content item inner (head ++ '(' :: (cs ++ [')']))
  | record {head cs : List Char} (hh : Head head) (h : Parts (Field item) cs) :
    ValueOf e sure content item inner (head ++ '(' :: (cs ++ [')']))
  | list {cs : List Char} (h : Parts item cs) : ValueOf e sure content item inner ('[' :: (cs ++ [']']))
  | map {cs : List Char} (h : Parts (MapEntry item) cs) : ValueOf e sure content item inner ('{' :: (cs ++ ['}']))

/-- A value of any kind that is nested to some depth: a value in an optional one is one level further in, all others are two levels
further in, and what is written bare is as far in as if it had its parentheses. -/
def Value (e : Extensions) (sure : Prop) : Nat → List Char → Prop
  | 0 => Atom
  | 1 => ValueOf e sure Atom (fun _ => False) (fun _ => False)
  | 2 => ValueOf e sure (Value e sure 1) Atom (fun _ => False)
  | depth + 3 => ValueOf e sure (Value e sure (depth + 2)) (Value e sure (depth + 1)) (Value e sure depth)

/-! ## Values in place of others -/

section

variable {e : Extensions} {sure sure' : Prop} {content content' item item' inner inner' : List Char → Prop} {ks vs cs : List Char}

/-- A key and its value are parts of their entry. -/
theorem Entry.key_infix (h : Entry ks vs cs) : ks <:+: cs := by
  cases h with
  | mk _ _ => exact (List.prefix_append ks _).isInfix

theorem Entry.value_infix (h : Entry ks vs cs) : vs <:+: cs := by
  cases h with
  | @mk before behind _ _ =>
    have last : vs <:+ before ++ ':' :: (behind ++ vs) :=
      (List.suffix_append behind vs).trans ((List.suffix_cons ':' _).trans (List.suffix_append before _))
    exact (last.trans (List.suffix_append ks _)).isInfix

theorem Field.imp (items : ∀ vs, vs <:+: cs → item vs → item' vs) (h : Field item cs) : Field item' cs := by
  obtain ⟨hk, hv, entry⟩ := h
  exact .mk hk (items _ entry.value_infix hv) entry

theorem MapEntry.imp (items : ∀ vs, vs <:+: cs → item vs → item' vs) (h : MapEntry item cs) : MapEntry item' cs := by
  obtain ⟨hk, hv, entry⟩ := h
  exact .mk (items _ entry.key_infix hk) (items _ entry.value_infix hv) entry

theorem Parts.imp {p q : List Char → Prop} (each : ∀ vs, vs <:+: cs → p vs → q vs) (h : Parts p cs) : Parts q cs := by
  obtain ⟨hgap, h⟩ := h
  exact .mk hgap (h.imp fun _ vs part => each vs (part.trans (List.suffix_append _ _).isInfix))

/-- The parentheses behind a name are part of it, and so are the brackets around something. -/
theorem infix_brackets (front : List Char) (c d : Char) (inside : List Char) : inside <:+: front ++ c :: (inside ++ [d]) :=
  ((List.prefix_append inside [d]).isInfix.trans (List.suffix_cons c _).isInfix).trans (List.suffix_append front _).isInfix

theorem infix_enclosed (front gap more inside : List Char) : inside <:+: front ++ (gap ++ '(' :: (more ++ (inside ++ [')']))) := by
  have last : inside ++ [')'] <:+ front ++ (gap ++ '(' :: (more ++ (inside ++ [')']))) :=
    ((List.suffix_append more _).trans (List.suffix_cons '(' _)).trans ((List.suffix_append gap _).trans (List.suffix_append front _))
  exact (List.prefix_append inside _).isInfix.trans last.isInfix

/-- A value is one of another kind if its parts are. -/
theorem ValueOf.imp (optional : ∀ vs, vs <:+: cs → OptionalPart e sure content inner vs → OptionalPart e sure' content' inner' vs)
    (items : ∀ vs, vs <:+: cs → item vs → item' vs) (h : ValueOf e sure content item inner cs) :
    ValueOf e sure' content' item' inner' cs := by
  cases h with
  | atom h => exact .atom h
  | @optional gap _ hgap h =>
    obtain ⟨space, h⟩ := h
    rename_i more inside
    exact .optional hgap (.mk space (optional inside (infix_enclosed _ gap more inside) h))
  | @tuple head inside hh h =>
    exact .tuple hh (h.imp fun vs part => items vs (part.trans (infix_brackets head '(' ')' inside)))
  | @record head inside hh h =>
    refine .record hh (h.imp fun fs part field => ?_)
    exact field.imp fun vs here => items vs ((here.trans part).trans (infix_brackets head '(' ')' inside))
  | @list inside h => exact .list (h.imp fun vs part => items vs (part.trans (infix_brackets [] '[' ']' inside)))
  | @map inside h =>
    refine .map (h.imp fun fs part entry => ?_)
    exact entry.imp fun vs here => items vs ((here.trans part).trans (infix_brackets [] '{' '}' inside))

/-- What stands in the parentheses of an optional value stays it if more values are allowed. -/
theorem OptionalPart.imp (contents : ∀ vs, content vs → content' vs) (inners : ∀ vs, inner vs → inner' vs)
    (h : OptionalPart e sure content inner cs) : OptionalPart e sure content' inner' cs := by
  cases h with
  | whole h judged => exact .whole (Listing.imp (fun _ vs _ => contents vs) h) judged
  | fields bare h => exact .fields bare (h.imp fun _ fs _ field => field.imp fun vs _ => inners vs)
  | items bare h judged => exact .items bare (h.imp fun _ vs _ => inners vs) judged

/-- The values in a value are not nested as deep. -/
theorem Value.parts {n : Nat} (h : Value e sure n cs) :
    ValueOf e sure (fun vs => ∃ m < n, Value e sure m vs) (fun vs => ∃ m < n, Value e sure m vs) (fun vs => ∃ m < n, Value e sure m vs)
      cs := by
  match n, h with
  | 0, h => exact .atom h
  | 1, h => exact ValueOf.imp (fun _ _ => OptionalPart.imp (fun vs h => ⟨0, by omega, h⟩) fun _ => False.elim) (fun _ _ => False.elim) h
  | 2, h =>
    exact ValueOf.imp (fun _ _ => OptionalPart.imp (fun vs h => ⟨1, by omega, h⟩) fun _ => False.elim) (fun vs _ h => ⟨0, by omega, h⟩) h
  | n + 3, h =>
    exact ValueOf.imp (fun _ _ => OptionalPart.imp (fun vs h => ⟨n + 2, by omega, h⟩) fun vs h => ⟨n, by omega, h⟩)
      (fun vs _ h => ⟨n + 1, by omega, h⟩) h

/-- A value that is nested to some depth may be nested deeper. -/
theorem Value.succ {n : Nat} (h : Value e sure n cs) : Value e sure (n + 1) cs := by
  induction n using Nat.strong_induction_on generalizing cs with
  | _ n ih =>
    match n, h with
    | 0, h => exact .atom h
    | 1, h =>
      exact ValueOf.imp (fun vs _ part => part.imp (fun vs content => ih 0 (by omega) content) fun _ => False.elim)
        (fun _ _ => False.elim) h
    | 2, h =>
      exact ValueOf.imp (fun vs _ part => part.imp (fun vs content => ih 1 (by omega) content) fun _ => False.elim)
        (fun vs _ item => ih 0 (by omega) item) h
    | n + 3, h =>
      exact ValueOf.imp (fun vs _ part => part.imp (fun vs content => ih (n + 2) (by omega) content) fun vs inner => ih n (by omega) inner)
        (fun vs _ item => ih (n + 1) (by omega) item) h

end

/-! ## How values start -/

namespace Reader

variable {cs rest : List Char}

/-- Numbers start like no space, comment or mark. -/
theorem opens_number (h : AnyNumber cs) : Opens cs := by
  have outside : edges.any (fun c => startsNumeral c || c ∈ ['i', 'N', 'b']) = false := by decide
  obtain ⟨c, more, rfl, start⟩ := h.head
  exact opens_cons (fun edge => List.any_eq_false.1 outside c edge start.first) more

theorem opens_numberOrRange (h : NumberOrRange cs) : Opens cs := by
  cases h with
  | number h => exact opens_number h
  | range hf _ _ =>
    rcases hf with rfl | hf
    · exact opens_cons (by decide) _
    · exact (opens_number hf).append _
  | closed hf _ _ =>
    rcases hf with rfl | hf
    · exact opens_cons (by decide) _
    · exact (opens_number hf).append _

theorem opens_text {place : EscapePlace} {s : String} (h : TextLiteral place s cs) : Opens cs := by
  cases h <;> exact opens_cons (by decide) _

theorem opens_atom (h : Atom cs) : Opens cs := by
  cases h with
  | word h =>
    simp only [List.mem_cons, List.not_mem_nil, or_false] at h
    rcases h with rfl | rfl | rfl <;> exact opens_cons (by decide) _
  | unit => exact opens_cons (by decide) _
  | number h => exact opens_numberOrRange h
  | name h => exact opens_name h.written
  | text h => exact opens_text h
  | bytes _ => exact opens_cons (by decide) _
  | character h => cases h <;> exact opens_cons (by decide) _

/-- Whatever stands in parentheses, a name may stand in front of them. -/
theorem opens_head {head : List Char} (h : Head head) (rest : List Char) : Opens (head ++ '(' :: rest) := by
  cases h with
  | none => exact opens_cons (by decide) _
  | named h _ => exact ((opens_name h.written).append _).append _

variable {e : Extensions} {sure : Prop} {content item inner : List Char → Prop}

theorem opens_valueOf (h : ValueOf e sure content item inner cs) : Opens cs := by
  cases h with
  | atom h => exact opens_atom h
  | optional _ _ => exact opens_cons (by decide) _
  | tuple hh _ => exact opens_head hh _
  | record hh _ => exact opens_head hh _
  | list _ => exact opens_cons (by decide) _
  | map _ => exact opens_cons (by decide) _

theorem opens_value {depth : Nat} (h : Value e sure depth cs) : Opens cs := by
  match depth, h with
  | 0, h => exact opens_atom h
  | 1, h | 2, h | _ + 3, h => exact opens_valueOf h

/-- A number is none of the words. -/
theorem firstWord_number (h : NumberOrRange cs) (rest : List Char) :
    firstWord (cs ++ rest) ∉ ["true".toList, "false".toList, "Some".toList, "None".toList] := by
  obtain ⟨c, more, rfl, start⟩ := h.head
  intro word
  obtain ⟨tail, text⟩ : firstWord (c :: more ++ rest) <+: c :: more ++ rest := List.takeWhile_prefix _
  simp only [List.mem_cons, List.not_mem_nil, or_false] at word
  rcases word with word | word | word | word <;> rw [word] at text <;> obtain ⟨rfl, behind⟩ := List.cons.inj text
  · exact absurd start.first (by decide)
  · exact absurd start.first (by decide)
  · exact absurd start.first (by decide)
  · -- the word for a missing value and the one for no number start with the same letter
    have second := start.second rfl
    cases more with
    | nil => exact absurd second (by simp)
    | cons d more =>
      obtain rfl : d = 'a' := by simpa using second
      exact absurd (List.cons.inj behind).1 (by decide)

/-! ## Names -/

/-- What starts with no letter has no name. -/
theorem name?_of_head {c : Char} (h : Text.isIdentifierStart c = false) (more : List Char) : ∃ fault, name? (c :: more) = .error fault := by
  by_cases raw : isRawPart c = true
  · exact ⟨.rawName (String.ofList ((c :: more).takeWhile isRawPart)), by simp only [name?, h, raw, Bool.not_false, if_true]⟩
  · exact ⟨.expected "identifier", by simp only [name?, h, raw, Bool.not_false, if_true, Bool.false_eq_true, if_false]⟩

/-- A text or a byte that starts with a letter has no name. -/
theorem name?_marked {c : Char} (start : Text.isIdentifierStart c = true) {more : List Char}
    (marked : literalMarks.any (·.isPrefixOf (c :: more)) = true) : name? (c :: more) = .error (.expected "identifier") := by
  simp only [name?, start, marked, Bool.not_true, Bool.false_eq_true, if_false, if_true]

/-- No name starts like a number in digits. -/
theorem startsNumeral_of_isIdentifierStart {c : Char} (h : Text.isIdentifierStart c = true) : startsNumeral c = false := by
  rw [Bool.eq_false_iff]
  intro start
  have small : c.toNat < 128 := by
    simp only [startsNumeral, Bool.or_eq_true, beq_iff_eq] at start
    rcases start with ((digit | rfl) | rfl) | rfl
    · simp only [Char.isDigit, Bool.and_eq_true, decide_eq_true_eq, UInt32.le_iff_toNat_le] at digit
      exact Nat.lt_of_le_of_lt digit.2 (by decide)
    all_goals decide
  rw [Text.isIdentifierStart_ascii small] at h
  have apart := Text.ascii_forall (p := fun c => (c.isAlpha || c == '_') = true → startsNumeral c = false) (by decide) small h
  exact Bool.false_ne_true (apart.symm.trans start)

/-- Behind the letters of a raw text there is a quote or a number sign, and neither a name nor a byte starts like that. -/
theorem raw_start (signs : Nat) (tail : List Char) :
    ∃ c more, List.replicate signs '#' ++ '"' :: tail = c :: more ∧ c ∈ ['"', '#'] ∧
      literalMarks.any (·.isPrefixOf ("r".toList ++ c :: more)) = true ∧
      literalMarks.any (·.isPrefixOf ("br".toList ++ c :: more)) = true := by
  match signs with
  | 0 => exact ⟨'"', tail, rfl, by simp, by simp [literalMarks], by simp [literalMarks]⟩
  | 1 => exact ⟨'#', '"' :: tail, rfl, by simp, by simp [literalMarks], by simp [literalMarks]⟩
  | signs + 2 =>
    exact ⟨'#', '#' :: (List.replicate signs '#' ++ '"' :: tail), rfl, by simp, by simp [literalMarks], by simp [literalMarks]⟩

/-- A name ends in front of a gap with a parenthesis or a mark behind it. -/
theorem endsName_gap {gap : List Char} (hgap : Gap gap) {c : Char} (mark : c ∈ '(' :: marks) (more : List Char) :
    EndsName (gap ++ c :: more) := by
  have edge : ∀ c ∈ '(' :: marks, c ∈ '(' :: edges := by decide
  rcases gap_head hgap with rfl | ⟨d, others, rfl, space⟩
  · exact endsName_cons (edge c mark) more
  · exact endsName_cons (List.mem_cons_of_mem _ (List.mem_append_left _ space)) _

theorem behindName?_nameless (h : ∃ fault, name? cs = .error fault) : behindName? cs = none := by
  obtain ⟨fault, h⟩ := h
  rw [behindName?, h]

/-- What has no name holds no field. -/
theorem contentsOf_nameless (h : ∃ fault, name? cs = .error fault) : contentsOf cs = .items := by
  simp [contentsOf, behindName?_nameless h]

/-- It is known what comes behind a name and its gap. -/
theorem behindName?_written {name : String} {ks gap : List Char} (h : Name name ks) (hgap : Gap gap) {c : Char} (mark : c ∈ '(' :: marks)
    (more : List Char) : behindName? (ks ++ (gap ++ c :: more)) = some (c :: more) := by
  have starts : Starts (c :: more) := by
    have all : ∀ c ∈ '(' :: marks, isSpace c = false ∧ c ≠ '/' := by decide
    exact ⟨c, more, rfl, all c mark⟩
  obtain ⟨sign, found, length⟩ := name?_written h (endsName_gap hgap mark more)
  obtain ⟨before, skipped⟩ := reads_spaces_iff.1 (reads_gap hgap starts)
  simp [behindName?, found, length, skipped, Except.toOption]

/-- A name with a colon behind it is one of a field. -/
theorem contentsOf_field {name : String} {ks gap : List Char} (h : Name name ks) (hgap : Gap gap) (more : List Char) :
    contentsOf (ks ++ (gap ++ ':' :: more)) = .named := by
  simp [contentsOf, behindName?_written h hgap (by decide : ':' ∈ '(' :: marks)]

/-- A value is not taken for the name of a field where no colon follows it: if it starts with a name, what comes next is a parenthesis or
what follows the value. -/
def Unlabelled (cs : List Char) : Prop :=
  ∀ gap, Gap gap → ∀ c ∈ marks, ∀ more, ∀ d ∈ (behindName? (cs ++ (gap ++ c :: more))).bind List.head?, d = '(' ∨ d = c

theorem Unlabelled.contentsOf_eq (h : Unlabelled cs) {gap : List Char} (hgap : Gap gap) {c : Char} (mark : c ∈ marks) (not_colon : c ≠ ':')
    (more : List Char) : contentsOf (cs ++ (gap ++ c :: more)) = .items := by
  refine if_neg fun colon => ?_
  rcases h gap hgap c mark more ':' colon with same | same
  · exact absurd same (by decide)
  · exact not_colon same.symm

theorem unlabelled_name {name : String} (h : Name name cs) : Unlabelled cs := by
  intro gap hgap c mark more d behind
  rw [behindName?_written h hgap (List.mem_cons_of_mem _ mark)] at behind
  exact .inr (Option.some.inj behind).symm

theorem unlabelled_of_nameless (h : ∀ rest, ∃ fault, name? (cs ++ rest) = .error fault) : Unlabelled cs := by
  intro gap _ c _ more d behind
  rw [behindName?_nameless (h _)] at behind
  cases behind

theorem unlabelled_cons {c : Char} (h : Text.isIdentifierStart c = false) (more : List Char) : Unlabelled (c :: more) :=
  unlabelled_of_nameless fun _ => name?_of_head h _

/-- A byte has no name. -/
theorem name?_byte (more : List Char) : ∃ fault, name? ('b' :: '\'' :: more) = .error fault :=
  ⟨_, name?_marked (by simp) (by simp [literalMarks])⟩

/-- A number in digits has no name. -/
theorem name?_numeral (h : NumeralStart cs) : ∃ fault, name? cs = .error fault := by
  obtain ⟨⟨c, more, rfl, start⟩, -⟩ := h
  refine name?_of_head (Bool.eq_false_iff.2 fun letter => ?_) more
  exact Bool.false_ne_true ((startsNumeral_of_isIdentifierStart letter).symm.trans start)

/-- A word at the front of a range is no name. -/
theorem name?_range {word : List Char} (h : word ∈ unsignedWords.map (·.1.toList)) (more : List Char) :
    ∃ fault, name? (word ++ '.' :: more) = .error fault := by
  have words : ∀ w ∈ unsignedWords, (∀ c ∈ w.1.toList, Text.isIdentifierPart c = true) ∧
      ∃ c ∈ ['i', 'N'], w.1.toList.head? = some c ∧ Text.isIdentifierStart c = true := by simp [unsignedWords]
  have point : isRawPart '.' = true := by simp [isRawPart]
  obtain ⟨w, found, rfl⟩ := List.mem_map.1 h
  obtain ⟨parts, c, letter, head, start⟩ := words w found
  obtain ⟨tail, word⟩ := List.head?_eq_some_iff.1 head
  have taken : (w.1.toList ++ '.' :: more).takeWhile Text.isIdentifierPart = w.1.toList :=
    takeWhile_stop parts (by simp)
  have raw : (w.1.toList ++ '.' :: more).takeWhile isRawPart = w.1.toList ++ '.' :: more.takeWhile isRawPart := by
    rw [List.takeWhile_append_of_pos fun d hd => isRawPart_of_isIdentifierPart (parts d hd), List.takeWhile_cons_of_pos point]
  have unmarked : ∀ mark ∈ "r#".toList :: literalMarks, mark.isPrefixOf (w.1.toList ++ '.' :: more) = false := by
    have heads : ∀ mark ∈ "r#".toList :: literalMarks, ∀ c ∈ ['i', 'N'], mark.head? ≠ some c ∧ mark ≠ [] := by decide
    intro mark hmark
    obtain ⟨differs, nonempty⟩ := heads mark hmark c letter
    obtain ⟨d, others, rfl⟩ := List.exists_cons_of_ne_nil nonempty
    rw [word, List.cons_append]
    refine isPrefixOf_eq_false_of_head ?_ others
    rintro ⟨⟩
    exact differs rfl
  have marks : literalMarks.any (·.isPrefixOf (w.1.toList ++ '.' :: more)) = false := by
    rw [List.any_eq_false]
    intro mark hmark
    rw [unmarked mark (List.mem_cons_of_mem _ hmark)]
    exact Bool.false_ne_true
  have sign := unmarked "r#".toList List.mem_cons_self
  have shorter : w.1.toList.length < (w.1.toList ++ '.' :: more.takeWhile isRawPart).length := by simp
  refine ⟨.rawName (String.ofList (w.1.toList ++ '.' :: more.takeWhile isRawPart)), ?_⟩
  rw [word, List.cons_append] at *
  unfold name?
  dsimp only
  rw [start, marks, sign, taken, raw]
  simp

/-- A number is no field. -/
theorem unlabelled_number (h : AnyNumber cs) : Unlabelled cs := by
  have names : ∀ word ∈ unsignedWords, IsName word.1.toList := by simp [unsignedWords, IsName]
  rcases h.start with word | ⟨more, rfl⟩ | numeral
  · obtain ⟨w, found, rfl⟩ := List.mem_map.1 word
    exact unlabelled_name (.plain (names w found))
  · exact unlabelled_of_nameless fun rest => name?_byte (more ++ rest)
  · exact unlabelled_of_nameless fun rest => name?_numeral (numeral rest)

/-- Nor is a range. -/
theorem unlabelled_range {first : List Char} (h : first = [] ∨ AnyNumber first) (last : List Char) :
    Unlabelled (first ++ '.' :: last) := by
  rcases h with rfl | h
  · exact unlabelled_cons (by simp) last
  · refine unlabelled_of_nameless fun rest => ?_
    rw [List.append_assoc]
    rcases h.start with word | ⟨more, rfl⟩ | numeral
    · exact name?_range word _
    · exact name?_byte _
    · exact name?_numeral (numeral _)

theorem unlabelled_atom (h : Atom cs) : Unlabelled cs := by
  cases h with
  | word h =>
    have names : ∀ word ∈ ["true", "false", "None"], IsName word.toList := by simp [IsName]
    exact unlabelled_name (.plain (names _ h))
  | unit => exact unlabelled_cons (by simp) _
  | number h =>
    cases h with
    | number h => exact unlabelled_number h
    | range hf _ _ => exact unlabelled_range hf _
    | closed hf _ _ => exact unlabelled_range hf _
  | name h => exact unlabelled_name h.written
  | text h =>
    cases h with
    | quoted _ => exact unlabelled_cons (by simp) _
    | @raw signs cs _ =>
      refine unlabelled_of_nameless fun rest => ?_
      obtain ⟨c, more, text, -, marked, -⟩ := raw_start signs (cs ++ rest)
      rw [List.cons_append, List.append_assoc, List.cons_append, text]
      exact ⟨_, name?_marked (by simp) marked⟩
  | bytes h =>
    refine unlabelled_of_nameless fun rest => ?_
    cases h with
    | quoted _ => exact ⟨_, name?_marked (by simp) (by simp [literalMarks])⟩
    | @raw signs cs _ =>
      obtain ⟨c, more, text, -, -, marked⟩ := raw_start signs (cs ++ rest)
      rw [List.cons_append, List.cons_append, List.append_assoc, List.cons_append, text]
      exact ⟨_, name?_marked (by simp) marked⟩
  | character h => cases h <;> exact unlabelled_cons (by simp) _

/-- A tuple, a record or an optional value may start with a name that a parenthesis follows. -/
theorem unlabelled_named {name : String} {ks gap : List Char} (h : Name name ks) (hgap : Gap gap) (inside : List Char) :
    Unlabelled (ks ++ (gap ++ '(' :: inside)) := by
  intro _ _ c _ more d behind
  rw [List.append_assoc, List.append_assoc, List.cons_append, behindName?_written h hgap List.mem_cons_self] at behind
  exact .inl (Option.some.inj behind).symm

theorem unlabelled_head {head : List Char} (h : Head head) (inside : List Char) : Unlabelled (head ++ '(' :: inside) := by
  cases h with
  | none => exact unlabelled_cons (by simp) _
  | named h hgap =>
    rw [List.append_assoc]
    exact unlabelled_named h.written hgap inside

theorem unlabelled_valueOf (h : ValueOf e sure content item inner cs) : Unlabelled cs := by
  cases h with
  | atom h => exact unlabelled_atom h
  | optional hgap h =>
    have name : Name "Some" "Some".toList := .plain (by simp [IsName])
    cases h
    exact unlabelled_named name hgap _
  | tuple hh _ => exact unlabelled_head hh _
  | record hh _ => exact unlabelled_head hh _
  | list _ => exact unlabelled_cons (by simp) _
  | map _ => exact unlabelled_cons (by simp) _

theorem unlabelled_value {depth : Nat} (h : Value e sure depth cs) : Unlabelled cs := by
  match depth, h with
  | 0, h => exact unlabelled_atom h
  | 1, h | 2, h | _ + 3, h => exact unlabelled_valueOf h

end Reader

end Notation

end DebugConsole
