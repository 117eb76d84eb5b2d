import DebugConsole.Proofs.Command.Line

/-!
# Commands in normal form

The line on which a command is typed (`Command.line`) and the command that is read from a line undo each other on commands in normal form
(`Command.Normal`): the name and the arguments are single words, which are their own lower-case forms, and of which only the name is
marked. These are all the commands that are ever read (`normal_of_read`), so every line that holds a command can be replaced by the one
on which its command is typed (`line_inverse`).
-/

namespace DebugConsole

namespace CommandLine

/-- The words of a line are single words in lower case. -/
theorem of_mem_words {line word : String} (h : word ∈ words line) : ' ' ∉ word.toList ∧ Text.lowercase word = word := by
  obtain ⟨typed, member, rfl⟩ := List.mem_map.1 h
  refine ⟨?_, Text.lowercase_lowercase _⟩
  intro space
  rw [Text.toList_lowercase, String.toList_ofList] at space
  exact Text.not_mem_of_mem_splitOn member (Text.mem_of_mem_lowerAfter space (by decide))

theorem mark_inj {m n : String} (h : mark m = mark n) : m = n := by
  have same := congrArg String.toList h
  rw [toList_mark, toList_mark] at same
  exact String.toList_inj.1 (List.cons.inj same).2

end CommandLine

namespace Command

/-- A command as it is read: its name and its arguments are single words in lower case, of which only the name is marked. -/
structure Normal (c : Command) : Prop extends c.Typeable where
  name_lower : Text.lowercase c.name = c.name
  arguments_lower : ∀ argument ∈ c.arguments, Text.lowercase argument = argument

/-- A command in normal form is its own lower-case form. -/
theorem Normal.lowered_eq {c : Command} (h : c.Normal) : c.lowered = c := by
  rw [lowered, h.name_lower, List.map_congr_left h.arguments_lower, List.map_id']

/-- A command is in normal form if its words, with the mark of the name, are words of a line and no argument is marked. -/
theorem normal_of_words (line : String) {c : Command} (name : CommandLine.mark c.name ∈ CommandLine.words line)
    (arguments : ∀ argument ∈ c.arguments, argument ∈ CommandLine.words line)
    (unmarked : ∀ argument ∈ c.arguments, ¬CommandLine.Marked argument) : c.Normal := by
  obtain ⟨whole, lower⟩ := CommandLine.of_mem_words name
  rw [CommandLine.toList_mark] at whole
  rw [lowercase_mark] at lower
  exact {
    name := fun inside => whole (List.mem_cons_of_mem _ inside)
    arguments := fun argument member => (CommandLine.of_mem_words (arguments argument member)).1
    unmarked := unmarked
    name_lower := CommandLine.mark_inj lower
    arguments_lower := fun argument member => (CommandLine.of_mem_words (arguments argument member)).2 }

/-- Whatever line it is read from, a command is in normal form. -/
theorem normal_of_read {line : String} {parsed : CommandLine} (h : CommandLine.read line = .ok parsed) :
    parsed.command.Normal := by
  have arguments : ∀ argument ∈ parsed.command.arguments, argument ∈ CommandLine.words line :=
    fun _ => CommandLine.mem_words_of_read h
  cases CommandLine.grammar_of_read h with
  | alone _ split unmarked =>
    refine normal_of_words line ?_ arguments unmarked
    rw [split]
    exact List.mem_append_right _ List.mem_cons_self
  | followed _ split unmarked =>
    refine normal_of_words line ?_ arguments unmarked
    rw [split]
    exact List.mem_append_right _ List.mem_cons_self

/-- A command in normal form is read from the line on which it is typed. -/
theorem Normal.read_line {c : Command} (h : c.Normal) : CommandLine.read c.line = .ok ⟨c, none⟩ := by
  rw [h.toTypeable.read_line, h.lowered_eq]

/-- Typing a command and reading it undo each other. The commands that are read from lines are in normal form. Such a command is read, with
nothing left out, from the line that has its name behind a dash and each argument behind a space. So the command of any line, with
arguments before its name, spaces at its end or a second command that is left out, is the command of the line on which it is typed, from
which nothing is left out. -/
theorem line_inverse :
    (∀ line parsed, CommandLine.read line = .ok parsed → parsed.command.Normal) ∧
    (∀ c : Command, c.Normal → CommandLine.read c.line = .ok ⟨c, none⟩) ∧
    ∀ line parsed, CommandLine.read line = .ok parsed →
      CommandLine.read parsed.command.line = .ok ⟨parsed.command, none⟩ :=
  ⟨fun _ _ => normal_of_read, fun _ => Normal.read_line, fun _ _ h => (normal_of_read h).read_line⟩

/-- The name keeps its second dash, and the first argument, which stands before it, goes behind it. -/
theorem line_inverse_second_dash :
    let c : Command := ⟨"-\u03ba\u03c2", ["red", ""]⟩
    CommandLine.read "Red --\u039a\u03a3  -Y z " = .ok ⟨c, some ⟨"y", ["z", ""]⟩⟩ ∧ c.Normal ∧
      c.line = "--\u03ba\u03c2 red " ∧ CommandLine.read c.line = .ok ⟨c, none⟩ := by
  intro c
  have read : CommandLine.read "Red --\u039a\u03a3  -Y z " = .ok ⟨c, some ⟨"y", ["z", ""]⟩⟩ := by decide +kernel
  have normal : c.Normal := line_inverse.1 _ _ read
  exact ⟨read, normal, by decide +kernel, line_inverse.2.1 c normal⟩

end Command

end DebugConsole
