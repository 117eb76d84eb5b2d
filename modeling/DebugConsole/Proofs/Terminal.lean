import DebugConsole.Proofs.Command.Course
import DebugConsole.Proofs.Session.Capture
import DebugConsole.Proofs.Text.Blank
import DebugConsole.Proofs.Text.Words

/-!
# What is typed on the terminal

What is typed is bytes. They are cut at the line ends, and a piece stands for the text whose bytes it is (`decodeRows_spec`), if there is
one; from the first piece on that stands for none, nothing is submitted. The blanks at the end of a text are taken off, and blank texts are
left out.

Whether a text is blank is asked in three places: before it is submitted, before it is echoed, and when it is read. `submitted_as_typed` says
that it makes no difference where.
-/

namespace DebugConsole

namespace Terminal

/-- The bytes of a text. -/
def bytes (text : String) : List UInt8 :=
  text.toUTF8.data.toList

/-- Bytes stand for a text if and only if they are the bytes of the text. -/
theorem fromUTF8?_eq_some_iff {row : List UInt8} {text : String} :
    String.fromUTF8? ⟨row.toArray⟩ = some text ↔ row = bytes text := by
  unfold String.fromUTF8?
  constructor
  · intro h
    split at h
    · cases h
      rfl
    · cases h
  · rintro rfl
    have valid : (⟨(bytes text).toArray⟩ : ByteArray).IsValidUTF8 := text.isValidUTF8
    rw [dif_pos valid]
    rfl

/-- Rows of bytes are decoded one after the other, up to the first one that stands for no text. -/
theorem decodeRows_spec (rows : List (List UInt8)) :
    ∃ unread, rows = (decodeRows rows).map bytes ++ unread ∧ ∀ row ∈ unread.head?, ∀ text, row ≠ bytes text := by
  induction rows with
  | nil => exact ⟨[], rfl, nofun⟩
  | cons row rows ih =>
    cases decoded : String.fromUTF8? ⟨row.toArray⟩ with
    | none =>
      refine ⟨row :: rows, ?_, ?_⟩
      · rw [decodeRows, decoded]
        rfl
      · rintro _ ⟨⟩ text same
        rw [fromUTF8?_eq_some_iff.2 same] at decoded
        cases decoded
    | some text =>
      obtain ⟨unread, split, first⟩ := ih
      refine ⟨unread, ?_, first⟩
      rw [decodeRows, decoded, List.map_cons, List.cons_append, ← split, fromUTF8?_eq_some_iff.1 decoded]

/-- A line end in a text is one in its bytes. -/
theorem newline_mem_bytes {text : String} (h : '\n' ∈ text.toList) : 10 ∈ bytes text := by
  have characters : bytes text = text.toList.flatMap String.utf8EncodeChar := by
    rw [bytes, String.toUTF8, ← String.utf8Encode_toList, List.utf8Encode, List.data_toByteArray]
  rw [characters]
  exact List.mem_flatMap.2 ⟨'\n', h, by decide⟩

/-- The lines that are submitted are the texts that are not blank, trimmed. -/
theorem submitted_eq (typed : List UInt8) :
    submitted typed = ((decodeRows (typed.splitOn 10)).filter (!Text.isBlank ·)).map Text.trimEnd := by
  rw [submitted, List.filter_map]
  refine congrArg _ (List.filter_congr fun text _ => ?_)
  rw [Function.comp_apply, Text.isBlank_trimEnd]

/-- A submitted line is not blank, does not end in a blank and has no line end in it. -/
theorem of_mem_submitted {typed : List UInt8} {line : String} (h : line ∈ submitted typed) :
    Text.isBlank line = false ∧ (∀ c ∈ line.toList.getLast?, Text.isBlankChar c = false) ∧ '\n' ∉ line.toList := by
  rw [submitted_eq] at h
  obtain ⟨text, member, rfl⟩ := List.mem_map.1 h
  obtain ⟨decoded, written⟩ := List.mem_filter.1 member
  have trims := Text.trims_trimEnd text
  refine ⟨?_, trims.ends, fun inside => ?_⟩
  · rw [Text.isBlank_trimEnd]
    exact (Bool.not_eq_true' _).mp written
  · obtain ⟨blanks, -, split⟩ := trims.split
    obtain ⟨unread, rows, -⟩ := decodeRows_spec (typed.splitOn 10)
    have piece : bytes text ∈ typed.splitOn 10 := by
      rw [rows]
      exact List.mem_append_left _ (List.mem_map_of_mem decoded)
    refine Text.not_mem_of_mem_splitOn piece (newline_mem_bytes ?_)
    rw [split, String.toList_append]
    exact List.mem_append_left _ inside

end Terminal

namespace Session

/-- A line is passed over if and only if it is blank. Any other line leaves something in the log of the host at least. -/
theorem handle_eq_self_iff {line : String} {s : Session} :
    s.handle line = { answer := (), state := s } ↔ Text.isBlank line = true := by
  by_cases blank : Text.isBlank line = true
  · simp only [handle, blank, if_true]
  · refine iff_of_false (fun same => ?_) blank
    have log := congrArg Outcome.log same
    simp only [handle, blank, Bool.false_eq_true, if_false] at log
    have first := trace_isPrefix_dispatch Console.facade s.registry s.forwarder.delegate line (s.console.append (Console.echo line))
    have nothing : CommandLine.trace line = [] := List.prefix_nil.1 ((List.append_eq_nil_iff.1 log).1 ▸ first)
    rw [CommandLine.trace, if_neg blank] at nothing
    cases nothing

/-- What was typed before the start is submitted when a session has started. -/
theorem submitted_started (l : Launch) : (started l).state.submitted = Terminal.submitted l.typed := by
  obtain ⟨console, registry, session⟩ := started_frame l
  rw [session, hear_eq]
  rfl

end Session

/-- The lines that are submitted are the ones typed. Let any bytes be typed, and cut them at every line end. The texts that the pieces stand
for, up to the first piece that stands for none, are submitted in order and once each, without the blanks at their ends, except that blank ones
are left out. What is submitted is not blank, does not end in a blank and has no line end in it; so it is echoed and dispatched by any
session, and it is not read as blank. Whether any text counts as blank does not depend on where it is asked, when its end was trimmed, when it
is read or when it is handled. And these lines are what waits in a session when it has started. -/
theorem submitted_as_typed (typed : List UInt8) :
    (∃ (pieces : List (List UInt8)) (texts : List String) (unread : List (List UInt8)),
      [10].intercalate pieces = typed ∧ (∀ piece ∈ pieces, 10 ∉ piece) ∧ pieces = texts.map Terminal.bytes ++ unread ∧
      (∀ piece ∈ unread.head?, ∀ text, piece ≠ Terminal.bytes text) ∧
      Terminal.submitted typed = (texts.filter fun text => !Text.isBlank text).map Text.trimEnd) ∧
    (∀ text, Text.Trims text (Text.trimEnd text)) ∧
    (∀ line ∈ Terminal.submitted typed,
      Text.isBlank line = false ∧ (∀ c ∈ line.toList.getLast?, Text.isBlankChar c = false) ∧ '\n' ∉ line.toList ∧
      CommandLine.read line ≠ .error .blank ∧
      ∀ s : Session, (s.handle line).state.console =
        (dispatch Console.facade s.registry s.forwarder.delegate line (s.console.append ⟨.command, "$ " ++ line⟩)).state) ∧
    (∀ text,
      (Text.isBlank (Text.trimEnd text) = true ↔ Text.isBlank text = true) ∧
      (CommandLine.read text = .error .blank ↔ Text.isBlank text = true) ∧
      ∀ s : Session, s.handle text = { answer := (), state := s } ↔ Text.isBlank text = true) ∧
    ∀ l : Launch, (Session.started { l with typed }).state.submitted = Terminal.submitted typed := by
  refine ⟨?_, Text.trims_trimEnd, fun line member => ?_, fun text => ⟨?_, CommandLine.read_eq_blank_iff, ?_⟩, ?_⟩
  · obtain ⟨unread, split, first⟩ := Terminal.decodeRows_spec (typed.splitOn 10)
    exact ⟨_, _, unread, List.intercalate_splitOn 10, fun _ => Text.not_mem_of_mem_splitOn, split, first,
      Terminal.submitted_eq typed⟩
  · obtain ⟨written, ends, whole⟩ := Terminal.of_mem_submitted member
    refine ⟨written, ends, whole, ?_, Session.console_handle_of_written written⟩
    rw [ne_eq, CommandLine.read_eq_blank_iff, written]
    exact Bool.false_ne_true
  · rw [Text.isBlank_trimEnd]
  · exact fun s => Session.handle_eq_self_iff
  · exact fun l => Session.submitted_started { l with typed }

/-- Spaces in front of a command stay and all blanks behind it go. A line of blanks is left out, and nothing is submitted from a piece on that
stands for no text. -/
theorem submitted_as_typed_unreadable :
    let typed := Terminal.bytes "  -Go\u3000\r\n \t\n" ++ [0xff, 10] ++ Terminal.bytes "-CloseConsole"
    Terminal.submitted typed = ["  -Go"] ∧ CommandLine.read "  -Go" ≠ .error .blank ∧
      (Session.started { typed }).state.submitted = ["  -Go"] := by
  intro typed
  have submitted : Terminal.submitted typed = ["  -Go"] := by decide +kernel
  obtain ⟨-, -, lines, -, started⟩ := submitted_as_typed typed
  obtain ⟨-, -, -, read, -⟩ := lines "  -Go" (submitted ▸ List.mem_singleton_self _)
  exact ⟨submitted, read, (started {}).trans submitted⟩

end DebugConsole
