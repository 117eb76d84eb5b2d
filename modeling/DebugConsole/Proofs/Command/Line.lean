import DebugConsole.CommandLine
import DebugConsole.Proofs.Text.Words

/-!
# The grammar of command lines

What a line means can be said of the line as it was typed. It is cut at every single space into words, each of which has a lower-case
form of its own, and `CommandLine.Grammar` says what the forms stand for: by itself, without a reader that goes through them.

The reader lower-cases the line as a whole and cuts it then. This comes to the same words (`map_tokens`), of which the same ones are
marked (`marked_lowercase`), so a line is read as the grammar says and in no other way (`read_iff_grammar`).

A command whose name and arguments are single words, of which only the name is marked, is typed on a line of its own (`Command.line`), and
this line is read as the command in lower case (`Command.Typeable.read_line`).
-/

namespace DebugConsole

namespace CommandLine

/-- The word that names a command. -/
def mark (name : String) : String :=
  String.ofList (marker :: name.toList)

/-- A word that names a command: one that starts with a dash. -/
def Marked (word : String) : Prop :=
  ∃ name, word = mark name

/-- The words of a line, each in its own lower-case form. Two spaces in a row have an empty word between them. -/
def words (line : String) : List String :=
  (line.toList.splitOn ' ').map fun word => Text.lowercase (String.ofList word)

/-- What a line stands for, going by its words. -/
inductive Grammar (line : String) : Except NotACommand CommandLine → Prop
  | blank (blank : Text.isBlank line = true) : Grammar line (.error .blank)
  | unmarked (written : Text.isBlank line = false) (unmarked : ∀ word ∈ words line, ¬Marked word) :
    Grammar line (.error .unmarked)
  /-- One word is marked, and all others are arguments. -/
  | alone {before after : List String} {name : String} (written : Text.isBlank line = false)
    (split : words line = before ++ mark name :: after) (unmarked : ∀ word ∈ before ++ after, ¬Marked word) :
    Grammar line (.ok ⟨⟨name, before ++ after⟩, none⟩)
  /-- The second word that is marked ends the line. -/
  | followed {before between others : List String} {name second : String} (written : Text.isBlank line = false)
    (split : words line = before ++ mark name :: (between ++ mark second :: others))
    (unmarked : ∀ word ∈ before ++ between, ¬Marked word) :
    Grammar line (.ok ⟨⟨name, before ++ between⟩, some ⟨second, others⟩⟩)

/-! ## Words and tokens -/

@[simp]
theorem toList_mark (name : String) : (mark name).toList = marker :: name.toList :=
  String.toList_ofList

theorem isMarked_toList (word : String) : isMarked word.toList = true ↔ Marked word := by
  constructor
  · intro marked
    obtain ⟨name, split⟩ := List.head?_eq_some_iff.1 (eq_of_beq marked)
    refine ⟨String.ofList name, ?_⟩
    rw [← String.toList_inj, toList_mark, String.toList_ofList, split]
  · rintro ⟨name, rfl⟩
    rw [toList_mark]
    rfl

instance (word : String) : Decidable (Marked word) :=
  decidable_of_iff _ (isMarked_toList word)

/-- Words that are typed and read again. -/
theorem map_ofList_map_toList (words : List String) : (words.map String.toList).map String.ofList = words := by
  rw [List.map_map]
  exact (List.map_congr_left fun word _ => String.ofList_toList).trans (List.map_id _)

/-- The tokens of a line are its words: where it is cut does not depend on whether it is lower-cased first. -/
theorem map_tokens (line : String) : (tokens line).map String.ofList = words line :=
  Text.splitOn_lowercase line

theorem tokens_eq (line : String) : tokens line = (words line).map String.toList := by
  rw [← map_tokens, List.map_map]
  exact ((List.map_congr_left fun token _ => String.toList_ofList).trans (List.map_id _)).symm

/-- A word is marked as it is typed if and only if its lower-case form is. -/
theorem marked_lowercase (word : String) : Marked (Text.lowercase word) ↔ Marked word := by
  rw [← isMarked_toList, ← isMarked_toList, isMarked, isMarked, beq_iff_eq, beq_iff_eq]
  exact Text.barrier_dash.head?_lowercase (by decide) word

/-! ## Reading -/

/-- Words without a mark are passed over. -/
theorem pass_unmarked {before : List String} (h : ∀ word ∈ before, ¬Marked word) (rest : List (List Char)) :
    (before.map String.toList ++ rest).takeWhile (!isMarked ·) =
        before.map String.toList ++ rest.takeWhile (!isMarked ·) ∧
      (before.map String.toList ++ rest).dropWhile (!isMarked ·) = rest.dropWhile (!isMarked ·) := by
  have passed : ∀ token ∈ before.map String.toList, (!isMarked token) = true := by
    intro token typed
    obtain ⟨word, member, rfl⟩ := List.mem_map.1 typed
    have unmarked : isMarked word.toList = false := by
      rw [Bool.eq_false_iff, ne_eq, isMarked_toList]
      exact h word member
    rw [unmarked]
    rfl
  exact ⟨List.takeWhile_append_of_pos passed, List.dropWhile_append_of_pos passed⟩

/-- The way to the next mark ends at it. -/
theorem stop_marked (name : String) (rest : List (List Char)) :
    ((mark name).toList :: rest).takeWhile (!isMarked ·) = [] ∧
      ((mark name).toList :: rest).dropWhile (!isMarked ·) = (mark name).toList :: rest := by
  have stop : (!isMarked (mark name).toList) = false := by
    rw [(isMarked_toList _).2 ⟨name, rfl⟩]
    rfl
  rw [List.takeWhile_cons, List.dropWhile_cons, stop]
  exact ⟨rfl, rfl⟩

/-- Words of which none is marked hold no command. -/
theorem ofTokens?_unmarked {words : List String} (h : ∀ word ∈ words, ¬Marked word) :
    ofTokens? (words.map String.toList) = none := by
  obtain ⟨-, dropped⟩ := pass_unmarked h []
  rw [List.append_nil] at dropped
  rw [ofTokens?, dropped]
  rfl

/-- One word that is marked names the command, and all others are its arguments. -/
theorem ofTokens?_alone {before after : List String} (h : ∀ word ∈ before ++ after, ¬Marked word) (name : String) :
    ofTokens? ((before ++ mark name :: after).map String.toList) = some ⟨⟨name, before ++ after⟩, none⟩ := by
  obtain ⟨first, later⟩ := List.forall_mem_append.1 h
  obtain ⟨taken, dropped⟩ := pass_unmarked first ((mark name).toList :: after.map String.toList)
  obtain ⟨untaken, found⟩ := stop_marked name (after.map String.toList)
  obtain ⟨passed, nothing⟩ := pass_unmarked later []
  rw [List.append_nil] at passed nothing
  rw [List.map_append, List.map_cons, ofTokens?, dropped, taken, untaken, found]
  simp only [passed, nothing, toList_mark, List.tail_cons, List.takeWhile_nil, List.dropWhile_nil, List.append_nil,
    String.ofList_toList, List.map_append, map_ofList_map_toList]

/-- The second word that is marked ends the command. -/
theorem ofTokens?_followed {before between : List String} (h : ∀ word ∈ before ++ between, ¬Marked word)
    (name second : String) (others : List String) :
    ofTokens? ((before ++ mark name :: (between ++ mark second :: others)).map String.toList) =
      some ⟨⟨name, before ++ between⟩, some ⟨second, others⟩⟩ := by
  obtain ⟨first, later⟩ := List.forall_mem_append.1 h
  let rest := between.map String.toList ++ (mark second).toList :: others.map String.toList
  obtain ⟨taken, dropped⟩ := pass_unmarked first ((mark name).toList :: rest)
  obtain ⟨untaken, found⟩ := stop_marked name rest
  obtain ⟨passed, reached⟩ := pass_unmarked later ((mark second).toList :: others.map String.toList)
  obtain ⟨stopped, last⟩ := stop_marked second (others.map String.toList)
  rw [List.map_append, List.map_cons, List.map_append, List.map_cons, ofTokens?, dropped, taken, untaken, found]
  simp only [rest, passed, reached, stopped, last]
  simp only [toList_mark, List.tail_cons, List.append_nil, String.ofList_toList, List.map_append, map_ofList_map_toList]

/-- What the grammar says of a line is what is read from it. -/
theorem read_of_grammar {line : String} {result : Except NotACommand CommandLine} (h : Grammar line result) :
    read line = result := by
  cases h with
  | blank blank => rw [read, if_pos blank]
  | unmarked written unmarked => rw [read, written, if_neg Bool.false_ne_true, tokens_eq, ofTokens?_unmarked unmarked]
  | alone written split unmarked =>
    rw [read, written, if_neg Bool.false_ne_true, tokens_eq, split, ofTokens?_alone unmarked]
  | followed written split unmarked =>
    rw [read, written, if_neg Bool.false_ne_true, tokens_eq, split, ofTokens?_followed unmarked]

/-- Words have a first one that is marked, or none is. -/
theorem first_marked (words : List String) :
    (∀ word ∈ words, ¬Marked word) ∨
      ∃ before name after, words = before ++ mark name :: after ∧ ∀ word ∈ before, ¬Marked word := by
  induction words with
  | nil => exact Or.inl nofun
  | cons word words ih =>
    by_cases marked : Marked word
    · obtain ⟨name, rfl⟩ := marked
      exact Or.inr ⟨[], name, words, rfl, nofun⟩
    · rcases ih with unmarked | ⟨before, name, after, rfl, unmarked⟩
      · exact Or.inl (List.forall_mem_cons.2 ⟨marked, unmarked⟩)
      · exact Or.inr ⟨word :: before, name, after, rfl, List.forall_mem_cons.2 ⟨marked, unmarked⟩⟩

/-- The grammar leaves no line out. -/
theorem exists_grammar (line : String) : ∃ result, Grammar line result := by
  by_cases blank : Text.isBlank line = true
  · exact ⟨_, .blank blank⟩
  · have written := Bool.eq_false_iff.2 blank
    rcases first_marked (words line) with unmarked | ⟨before, name, rest, split, unmarked⟩
    · exact ⟨_, .unmarked written unmarked⟩
    · rcases first_marked rest with later | ⟨between, second, others, rfl, later⟩
      · exact ⟨_, .alone written split (List.forall_mem_append.2 ⟨unmarked, later⟩)⟩
      · exact ⟨_, .followed written split (List.forall_mem_append.2 ⟨unmarked, later⟩)⟩

/-- So a line is read only as the grammar says. -/
theorem grammar_of_read {line : String} {result : Except NotACommand CommandLine} (h : read line = result) :
    Grammar line result := by
  obtain ⟨result', said⟩ := exists_grammar line
  obtain rfl : result' = result := (read_of_grammar said).symm.trans h
  exact said

/-- The arguments of a command are words of its line. -/
theorem mem_words_of_read {line word : String} {read : CommandLine} (h : CommandLine.read line = .ok read)
    (argument : word ∈ read.command.arguments) : word ∈ words line := by
  cases grammar_of_read h with
  | alone _ split _ =>
    rw [split]
    rcases List.mem_append.1 argument with before | after
    · exact List.mem_append_left _ before
    · exact List.mem_append_right _ (List.mem_cons_of_mem _ after)
  | followed _ split _ =>
    rw [split]
    rcases List.mem_append.1 argument with before | between
    · exact List.mem_append_left _ before
    · exact List.mem_append_right _ (List.mem_cons_of_mem _ (List.mem_append_left _ between))

/-- A line is read as the grammar says of it as it was typed, and in no other way. That it is lower-cased first, as a whole, makes no
difference: the tokens are the words, each in its own form, and lower-casing a word neither marks it nor takes its mark away. -/
theorem read_iff_grammar (line : String) :
    (∀ result, read line = result ↔ Grammar line result) ∧
      (tokens line).map String.ofList = words line ∧
      ∀ word, Marked (Text.lowercase word) ↔ Marked word := by
  refine ⟨?_, map_tokens line, marked_lowercase⟩
  intro result
  constructor
  · exact grammar_of_read
  · exact read_of_grammar

/-- The first sigma ends the word it stands in, and the second one does not, as there is no letter before it. -/
example : read "red -\u039a\u03a3  \u03a3 --X" = .ok ⟨⟨"\u03ba\u03c2", ["red", "", "\u03c3"]⟩, some ⟨"-x", []⟩⟩ := by
  decide +kernel

end CommandLine

/-! ## Typed commands -/

namespace Command

/-- The line on which a command is typed: its name behind a dash, and each argument behind a space. -/
def line (c : Command) : String :=
  String.ofList ((CommandLine.mark c.name).toList ++ c.arguments.flatMap fun argument => ' ' :: argument.toList)

/-- A command that fits on a line of its own: its name and its arguments are single words, of which only the name is marked. -/
structure Typeable (c : Command) : Prop where
  name : ' ' ∉ c.name.toList
  arguments : ∀ argument ∈ c.arguments, ' ' ∉ argument.toList
  unmarked : ∀ argument ∈ c.arguments, ¬CommandLine.Marked argument

/-- The command in lower case. -/
def lowered (c : Command) : Command :=
  ⟨Text.lowercase c.name, c.arguments.map Text.lowercase⟩

variable {c : Command}

/-- Words with spaces between them are cut at these. -/
theorem splitOn_flatMap {first : List Char} (h : ' ' ∉ first) {rest : List String} (h' : ∀ word ∈ rest, ' ' ∉ word.toList) :
    (first ++ rest.flatMap fun word => ' ' :: word.toList).splitOn ' ' = first :: rest.map String.toList := by
  induction rest generalizing first with
  | nil =>
    rw [List.flatMap_nil, List.append_nil, List.splitOn_eq_singleton h]
    rfl
  | cons word rest ih =>
    obtain ⟨whole, others⟩ := List.forall_mem_cons.1 h'
    rw [List.flatMap_cons, List.cons_append, List.splitOn_append_cons_self_of_not_mem h, ih whole others, List.map_cons]

/-- The name of a command is lower-cased behind its mark as it is by itself. -/
theorem lowercase_mark (name : String) : Text.lowercase (CommandLine.mark name) = CommandLine.mark (Text.lowercase name) := by
  have form := Text.barrier_dash.lowercase_cons name.toList
  rwa [String.ofList_toList] at form

/-- The words of the line on which a command is typed are its name, with the mark, and its arguments. -/
theorem Typeable.words_line (h : c.Typeable) :
    CommandLine.words c.line = CommandLine.mark c.lowered.name :: c.lowered.arguments := by
  have whole : ' ' ∉ (CommandLine.mark c.name).toList := by
    rw [CommandLine.toList_mark, List.mem_cons]
    rintro (space | inside)
    · exact absurd space (by decide)
    · exact h.name inside
  rw [CommandLine.words, line, String.toList_ofList, splitOn_flatMap whole h.arguments, List.map_cons, String.ofList_toList,
    lowercase_mark, List.map_map]
  refine congrArg _ (List.map_congr_left fun argument _ => ?_)
  rw [Function.comp_apply, String.ofList_toList]

theorem isBlank_line (c : Command) : Text.isBlank c.line = false := by
  rw [Bool.eq_false_iff, ne_eq, Text.isBlank, List.all_eq_true, line, String.toList_ofList, CommandLine.toList_mark]
  intro blank
  exact absurd (blank CommandLine.marker List.mem_cons_self) (by decide)

/-- A command that is typed is read, in lower case. -/
theorem Typeable.read_line (h : c.Typeable) : CommandLine.read c.line = .ok ⟨c.lowered, none⟩ := by
  have split : CommandLine.words c.line = [] ++ CommandLine.mark c.lowered.name :: c.lowered.arguments := h.words_line
  refine CommandLine.read_of_grammar (.alone c.isBlank_line split ?_)
  rw [List.nil_append]
  intro word lowered
  obtain ⟨argument, member, rfl⟩ := List.mem_map.1 lowered
  rw [CommandLine.marked_lowercase]
  exact h.unmarked argument member

end Command

end DebugConsole
