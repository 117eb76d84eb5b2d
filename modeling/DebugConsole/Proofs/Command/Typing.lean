import DebugConsole.Proofs.Command.Line
import DebugConsole.Proofs.Text.Blank

/-!
# Lines that are put together

The words of a line that goes on behind a space are those of its two parts (`words_append`). So what a line is read as can be said of the
texts that it was put together from (`typed`): a mark that stands first is read with the text behind it for the first argument
(`read_typed`), arguments may stand on either side of the mark (`read_typed_moved`), and words that are put behind a line go to its command or
to what is left out of it (`read_append`).
-/

namespace DebugConsole

namespace CommandLine

/-! ## Words -/

/-- Texts in a line, with a space between each and the next. -/
def typed (texts : List String) : String :=
  String.intercalate " " texts

@[simp]
theorem typed_singleton (text : String) : typed [text] = text :=
  String.intercalate_singleton

@[simp]
theorem typed_cons_cons (text next : String) (texts : List String) :
    typed (text :: next :: texts) = text ++ " " ++ typed (next :: texts) :=
  String.intercalate_cons_cons

/-- The words on the two sides of a space are the words of the line. -/
theorem words_append (line more : String) : words (line ++ " " ++ more) = words line ++ words more := by
  have toList : (line ++ " " ++ more).toList = line.toList ++ ' ' :: more.toList := by
    rw [String.toList_append, String.toList_append, List.append_assoc]
    rfl
  rw [words, toList, List.splitOn_append_cons_self, List.map_append]
  rfl

/-- The words of texts in a line are the words of each of them. -/
theorem words_typed {texts : List String} (h : texts ≠ []) : words (typed texts) = texts.flatMap words := by
  induction texts with
  | nil => exact absurd rfl h
  | cons text texts ih =>
    cases texts with
    | nil => rw [typed_singleton, List.flatMap_cons, List.flatMap_nil, List.append_nil]
    | cons next texts =>
      rw [typed_cons_cons, words_append, ih (List.cons_ne_nil _ _)]
      rfl

/-- A text without a space is a single word. -/
theorem words_whole {text : String} (h : ' ' ∉ text.toList) : words text = [Text.lowercase text] := by
  rw [words, List.splitOn_eq_singleton h, List.map_singleton, String.ofList_toList]

/-- So is a name behind its mark. -/
theorem words_mark {name : String} (h : ' ' ∉ name.toList) : words (mark name) = [mark (Text.lowercase name)] := by
  rw [words_whole, Command.lowercase_mark]
  rw [toList_mark, List.mem_cons, not_or]
  exact ⟨by decide, h⟩

/-! ## Blank lines -/

/-- A mark is no blank. -/
theorem isBlank_mark (name : String) : Text.isBlank (mark name) = false := by
  rw [Text.isBlank, toList_mark, List.all_cons]
  rfl

/-- Nor is a line that a mark is typed in. -/
theorem isBlank_typed_of_mem {texts : List String} {name : String} (h : mark name ∈ texts) :
    Text.isBlank (typed texts) = false := by
  induction texts with
  | nil => cases h
  | cons text texts ih =>
    cases texts with
    | nil => rw [typed_singleton, ← List.mem_singleton.1 h, isBlank_mark]
    | cons next texts =>
      rw [typed_cons_cons, Text.isBlank_append, Text.isBlank_append]
      rcases List.mem_cons.1 h with rfl | later
      · rw [isBlank_mark, Bool.false_and, Bool.false_and]
      · rw [ih later, Bool.and_false]

/-! ## Reading -/

/-- A line with a command is not blank. -/
theorem isBlank_eq_false_of_read {line : String} {read : CommandLine} (h : CommandLine.read line = .ok read) :
    Text.isBlank line = false := by
  rw [Bool.eq_false_iff]
  intro blank
  rw [CommandLine.read, if_pos blank] at h
  cases h

/-- None of the words in a text is marked. -/
def Unmarked (text : String) : Prop :=
  ∀ word ∈ words text, ¬Marked word

instance (text : String) : Decidable (Unmarked text) :=
  inferInstanceAs (Decidable (∀ word ∈ words text, ¬Marked word))

/-- A word behind the first mark, if it is not marked itself, is the first argument. -/
theorem read_behind {line name first : String} {rest : List String} (written : Text.isBlank line = false)
    (split : words line = mark name :: first :: rest) (unmarked : ¬Marked first) :
    ∃ later leftOut, read line = .ok ⟨⟨name, first :: later⟩, leftOut⟩ ∧ (rest = [] → leftOut = none) := by
  have argument : ∀ {words : List String}, (∀ word ∈ words, ¬Marked word) → ∀ word ∈ [] ++ first :: words, ¬Marked word :=
    fun later => List.forall_mem_cons.2 ⟨unmarked, later⟩
  rcases first_marked rest with plain | ⟨between, second, others, rfl, later⟩
  · exact ⟨rest, none, read_of_grammar (.alone written split (argument plain)), fun _ => rfl⟩
  · refine ⟨between, some ⟨second, others⟩, read_of_grammar (.followed written split (argument later)), fun nothing => ?_⟩
    exact absurd nothing (List.append_ne_nil_of_right_ne_nil _ (List.cons_ne_nil _ _))

/-- A text behind the mark of a name, if it is a single word that is not marked itself, is the first argument, whatever follows it. -/
theorem read_typed {name text : String} (whole : ' ' ∉ name.toList) (single : ' ' ∉ text.toList) (unmarked : ¬Marked text)
    (further : List String) :
    ∃ later leftOut, read (typed (mark name :: text :: further)) =
        .ok ⟨⟨Text.lowercase name, Text.lowercase text :: later⟩, leftOut⟩ ∧ (further = [] → leftOut = none) := by
  have split : words (typed (mark name :: text :: further)) =
      mark (Text.lowercase name) :: Text.lowercase text :: further.flatMap words := by
    rw [words_typed (List.cons_ne_nil _ _), List.flatMap_cons, List.flatMap_cons, words_mark whole, words_whole single]
    rfl
  obtain ⟨later, leftOut, same, alone⟩ := read_behind (isBlank_typed_of_mem List.mem_cons_self) split
    (mt (marked_lowercase text).1 unmarked)
  refine ⟨later, leftOut, same, ?_⟩
  rintro rfl
  exact alone rfl

/-- It makes no difference on which side of the first mark the arguments stand. -/
theorem read_moved {line moved name : String} {before after : List String} (written : Text.isBlank line = false)
    (written' : Text.isBlank moved = false) (split : words line = mark name :: (before ++ after))
    (split' : words moved = before ++ mark name :: after) (unmarked : ∀ word ∈ before, ¬Marked word) :
    read moved = read line := by
  rcases first_marked after with plain | ⟨between, second, others, rfl, later⟩
  · have all : ∀ word ∈ before ++ after, ¬Marked word := List.forall_mem_append.2 ⟨unmarked, plain⟩
    have first : Grammar line (.ok ⟨⟨name, [] ++ (before ++ after)⟩, none⟩) := .alone written split all
    exact (read_of_grammar (.alone written' split' all)).trans (read_of_grammar first).symm
  · have all : ∀ word ∈ before ++ between, ¬Marked word := List.forall_mem_append.2 ⟨unmarked, later⟩
    rw [← List.append_assoc] at split
    have first : Grammar line (.ok ⟨⟨name, [] ++ (before ++ between)⟩, some ⟨second, others⟩⟩) := .followed written split all
    exact (read_of_grammar (.followed written' split' all)).trans (read_of_grammar first).symm

/-- What a line is read as when some words without a mark were put behind it: they are arguments, unless the line ends in what is left out. -/
structure GoesOn (read : CommandLine) (words : List String) (longer : CommandLine) : Prop where
  name : longer.command.name = read.command.name
  arguments : longer.command.arguments = read.command.arguments ++ if read.leftOut.isNone then words else []
  leftOut : longer.leftOut.map LeftOut.name = read.leftOut.map LeftOut.name

/-- A line with a command goes on with more words. -/
theorem goesOn_of_words {line longer : String} {read : CommandLine} {more : List String} (h : CommandLine.read line = .ok read)
    (written : Text.isBlank longer = false) (split : words longer = words line ++ more) (unmarked : ∀ word ∈ more, ¬Marked word) :
    ∃ longerRead, CommandLine.read longer = .ok longerRead ∧ read.GoesOn more longerRead := by
  cases grammar_of_read h with
  | @alone before after name _ first plain =>
    rw [first, List.append_assoc, List.cons_append] at split
    have all : ∀ word ∈ before ++ (after ++ more), ¬Marked word := by
      rw [← List.append_assoc]
      exact List.forall_mem_append.2 ⟨plain, unmarked⟩
    exact ⟨_, read_of_grammar (.alone written split all), rfl, (List.append_assoc _ _ _).symm, rfl⟩
  | @followed before between others name second _ first plain =>
    rw [first, List.append_assoc, List.cons_append, List.append_assoc, List.cons_append] at split
    exact ⟨_, read_of_grammar (.followed written split plain), rfl, (List.append_nil _).symm, rfl⟩

/-- Arguments may stand on either side of the name, whatever stands behind them. -/
theorem read_typed_moved {name : String} {before : List String} (whole : ' ' ∉ name.toList)
    (unmarked : ∀ text ∈ before, Unmarked text) (after : List String) :
    CommandLine.read (typed (before ++ mark name :: after)) = CommandLine.read (typed (mark name :: (before ++ after))) := by
  have first : words (typed (mark name :: (before ++ after))) =
      mark (Text.lowercase name) :: (before.flatMap words ++ after.flatMap words) := by
    rw [words_typed (List.cons_ne_nil _ _), List.flatMap_cons, words_mark whole, List.flatMap_append]
    rfl
  have between : words (typed (before ++ mark name :: after)) =
      before.flatMap words ++ mark (Text.lowercase name) :: after.flatMap words := by
    rw [words_typed (List.append_ne_nil_of_right_ne_nil _ (List.cons_ne_nil _ _)), List.flatMap_append, List.flatMap_cons,
      words_mark whole]
    rfl
  refine read_moved (isBlank_typed_of_mem List.mem_cons_self)
    (isBlank_typed_of_mem (List.mem_append_right _ List.mem_cons_self)) first between ?_
  intro word member
  obtain ⟨text, typed, inside⟩ := List.mem_flatMap.1 member
  exact unmarked text typed word inside

/-! ## Spaces -/

/-- Some spaces. -/
def spaces (n : Nat) : String :=
  String.ofList (List.replicate n ' ')

theorem isBlank_spaces (n : Nat) : Text.isBlank (spaces n) = true := by
  rw [Text.isBlank, spaces, String.toList_ofList, List.all_eq_true]
  intro c member
  rw [List.eq_of_mem_replicate member]
  exact Text.isBlankChar_space

/-- There is an empty word behind each space at the end of a line. -/
theorem words_append_spaces (line : String) (n : Nat) : words (line ++ spaces n) = words line ++ List.replicate n "" := by
  induction n with
  | zero =>
    rw [List.replicate_zero, List.append_nil]
    exact congrArg words String.append_empty
  | succ n ih =>
    have last : line ++ spaces (n + 1) = line ++ spaces n ++ " " ++ "" := by
      rw [← String.toList_inj]
      simp [spaces, List.replicate_succ']
    have empty : words "" = [""] := rfl
    rw [last, words_append, ih, empty, List.append_assoc, List.replicate_succ']

/-- A line with a command goes on with a text behind a space. -/
theorem read_append {line more : String} {read : CommandLine} (h : CommandLine.read line = .ok read) (unmarked : Unmarked more) :
    ∃ longer, CommandLine.read (line ++ " " ++ more) = .ok longer ∧ read.GoesOn (words more) longer := by
  refine goesOn_of_words h ?_ (words_append line more) unmarked
  rw [Text.isBlank_append, Text.isBlank_append, isBlank_eq_false_of_read h, Bool.false_and, Bool.false_and]

theorem not_marked_empty : ¬Marked "" := by decide

/-- A line with a command goes on with spaces. -/
theorem read_append_spaces {line : String} {read : CommandLine} (h : CommandLine.read line = .ok read) (n : Nat) :
    ∃ longer, CommandLine.read (line ++ spaces n) = .ok longer ∧ read.GoesOn (List.replicate n "") longer := by
  refine goesOn_of_words h ?_ (words_append_spaces line n) ?_
  · rw [Text.isBlank_append, isBlank_eq_false_of_read h, Bool.false_and]
  · intro word member
    rw [List.eq_of_mem_replicate member]
    exact not_marked_empty

/-- Spaces at the end of a line do not make a command of it. -/
theorem exists_read_of_spaces {line : String} {n : Nat} {longer : CommandLine}
    (h : CommandLine.read (line ++ spaces n) = .ok longer) : ∃ read, CommandLine.read line = .ok read := by
  have written := isBlank_eq_false_of_read h
  rw [Text.isBlank_append, isBlank_spaces, Bool.and_true] at written
  obtain ⟨result, said⟩ := exists_grammar line
  have same := read_of_grammar said
  cases said with
  | blank blank => exact absurd blank (Bool.eq_false_iff.1 written)
  | unmarked _ plain =>
    have all : ∀ word ∈ words (line ++ spaces n), ¬Marked word := by
      rw [words_append_spaces]
      refine List.forall_mem_append.2 ⟨plain, fun word member => ?_⟩
      rw [List.eq_of_mem_replicate member]
      exact not_marked_empty
    rw [read_of_grammar (.unmarked (isBlank_eq_false_of_read h) all)] at h
    cases h
  | alone _ _ _ | followed _ _ _ => exact ⟨_, same⟩

end CommandLine

end DebugConsole
