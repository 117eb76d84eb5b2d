import DebugConsole.Proofs.Command.Typing
import DebugConsole.Proofs.Console.Mail
import DebugConsole.Proofs.Session.Handling
import Mathlib.Data.List.DropRight

/-!
# What a mail carries

A submitted line asks for mail if its command is the one for mail and has an address (`CommandLine.MailsTo`). The mail carries the lines of
the console at the time of asking. That is in the middle of the line: it has been echoed and the report of a second command has been printed,
but not the confirmation. `mail_carries_log` says what the lines are, and that the last of them is there under any cap.
-/

namespace DebugConsole

/-- A line that asks for mail to an address, and what is read from it. -/
structure CommandLine.MailsTo (line address : String) (read : CommandLine) : Prop where
  holds : CommandLine.read line = .ok read
  name : read.command.name = Stock.sendEmail.name
  argument : read.command.argument? = some address
  written : address ≠ ""

/-- Only the command for mail asks for mail, and it does if there is an address. -/
theorem Stock.call?_eq_sendMail_iff {c : Stock} {argument : Option String} {recipients : List String} :
    c.call? argument = some (.sendMail recipients) ↔
      c = sendEmail ∧ ∃ address, argument = some address ∧ address ≠ "" ∧ recipients = [address] := by
  constructor
  · intro made
    cases c with
    | sendEmail =>
      obtain ⟨address, kept, call⟩ := Option.map_eq_some_iff.1 made
      obtain ⟨given, written⟩ := Option.filter_eq_some_iff.1 kept
      cases call
      exact ⟨rfl, address, given, of_decide_eq_true written, rfl⟩
    | _ => cases made
  · rintro ⟨rfl, address, rfl, written, rfl⟩
    simp only [call?, Option.filter_some, decide_eq_true written, if_true, Option.map_some]

namespace CommandLine

/-- An address is a word of the line as it was typed, in lower case. -/
theorem MailsTo.exists_word {line address : String} {read : CommandLine} (h : MailsTo line address read) :
    ∃ word ∈ line.toList.splitOn ' ', address = Text.lowercase (String.ofList word) := by
  have argument : address ∈ read.command.arguments := List.mem_of_head? h.argument
  obtain ⟨word, typed, same⟩ := List.mem_map.1 (mem_words_of_read h.holds argument)
  exact ⟨word, typed, same.symm⟩

/-- What is told of a line before its command is carried out ends with the report of a second command, or with the echo if there is none. -/
theorem exists_last_told (echo : Line) (read : CommandLine) :
    ∃ told last, echo :: read.warnings.map Problem.line = told ++ [last] ∧ (read.leftOut = none → last = echo) ∧
      ∀ rest, read.leftOut = some rest → last = Problem.line (.secondCommand rest.name) := by
  unfold warnings
  cases read.leftOut with
  | none => exact ⟨[], echo, rfl, fun _ => rfl, nofun⟩
  | some rest =>
    refine ⟨[echo], Problem.line (.secondCommand rest.name), rfl, nofun, ?_⟩
    rintro _ ⟨⟩
    rfl

end CommandLine

/-- The text of some lines ends with the text of the last one, in a line of its own. -/
theorem Line.textOf_concat (lines : List Line) (last : Line) :
    Line.textOf (lines ++ [last]) = last.text ∨
      ∃ front, Line.textOf (lines ++ [last]) = front ++ "\n" ++ last.text := by
  by_cases single : lines = []
  · subst single
    exact Or.inl String.intercalate_singleton
  · have texts : lines.map Line.text ≠ [] := mt List.map_eq_nil_iff.1 single
    refine Or.inr ⟨Line.textOf lines, ?_⟩
    rw [textOf, List.map_append, List.map_singleton, String.intercalate_append_of_ne_nil texts (List.cons_ne_nil _ _),
      String.intercalate_singleton]
    rfl

namespace Console

variable {registry : Registry} {delegate : Option (List String)} {line address : String} {read : CommandLine} {c : Console}

/-- Messages do not change whether mail can be sent. -/
theorem canMail_appendAll (lines : List Line) (c : Console) : (c.appendAll lines).canMail = c.canMail := by
  rw [appendAll_frame]

/-- The command for mail is active if and only if mail can be sent. -/
theorem sendEmail_mem_active_iff {problems : List Problem} :
    .sendEmail ∈ Stock.active (facade.canMail (facade.after (problems.map Problem.report) c)) ↔ c.canMail = true := by
  rw [after_reports, Stock.mem_active_iff]
  show ((c.appendAll _).canMail || false) = true ↔ _
  rw [canMail_appendAll, Bool.or_false]

/-- A line that asks for mail queues it, if mail can be sent. It carries the lines of the console and the report of a second command. -/
theorem mail_of_mailsTo (registry : Registry) (delegate : Option (List String)) (h : CommandLine.MailsTo line address read)
    (available : c.canMail = true) :
    (dispatch facade registry delegate line c).state.queue.mail =
      c.queue.mail ++ [⟨[address], (c.appendAll (read.warnings.map Problem.line)).text⟩] := by
  have plan : Stock.sendEmail.plan read.command.argument? =
      .ok { call := .sendMail [address], confirmation := s!"Composing mail to {address}" } := by
    rw [h.argument]
    simp only [Stock.plan, Option.getD_some]
    split
    · exact absurd rfl h.written
    · rfl
  obtain ⟨-, -, calls⟩ :=
    dispatch_plan h.holds h.name.symm (sendEmail_mem_active_iff.2 available) plan (fun _ => rfl) registry delegate
  have traced : (dispatch facade registry delegate line c).state = _ := traced_dispatch facade registry delegate line c
  have queued : (c.appendAll (read.warnings.map Problem.line)).queue.mail = c.queue.mail := by
    rw [queue_appendAll]
  rw [traced, calls, Option.toList_none, List.append_nil, Facade.after_append, after_reports, ← queued]
  rfl

/-- No other line queues mail. -/
theorem mail_of_not_mailsTo (h : c.canMail = true → ∀ address read, ¬CommandLine.MailsTo line address read) :
    (dispatch facade registry delegate line c).state.queue.mail = c.queue.mail := by
  let run := dispatch facade registry delegate line c
  have mutations : run.mutations = _ := mutations_dispatch facade registry delegate line c
  have unasked : run.mutations.filterMap Call.recipients? = [] := by
    rw [List.filterMap_eq_nil_iff]
    intro call member
    rw [Option.eq_none_iff_forall_ne_some]
    intro recipients asked
    rw [mutations, Option.mem_toList] at member
    obtain ⟨stock, given, made⟩ := Option.bind_eq_some_iff.1 member
    have call : call = .sendMail recipients := by
      cases call <;> cases asked
      rfl
    rw [call, Stock.call?_eq_sendMail_iff] at made
    obtain ⟨rfl, address, argument, written, -⟩ := made
    obtain ⟨read, holds, named, active⟩ := stock?_dispatch_iff.1 given
    have command : run.report.command = some read.command := by
      have same : run = _ := dispatch_stock holds named active
      rw [same]
    rw [command, Option.bind_some] at argument
    exact h (sendEmail_mem_active_iff.1 active) address read ⟨holds, named.symm, argument, written⟩
  have mail : run.state.queue.mail = c.queue.mail ++ run.requests c := mail_dispatch registry delegate line c
  rwa [Run.requests, unasked, List.map_nil, List.append_nil] at mail

/-- The last of some lines is there when they have been appended, since the cap leaves room for one line at least. -/
theorem rtake_concat_last (lines : List Line) (last : Line) (c : Console) :
    ∃ earlier, (lines ++ [last]).rtake c.capacity = earlier ++ [last] := by
  obtain ⟨room, capacity⟩ : ∃ room, c.capacity = room + 1 := Nat.exists_eq_add_one_of_ne_zero c.capacity_pos.ne'
  rw [capacity]
  exact ⟨lines.rtake room, List.rtake_concat_succ lines room last⟩

end Console

namespace Session

variable {line address : String} {read : CommandLine}

/-- The mail that a submitted line asks for carries the lines with its echo and the report of a second command. -/
theorem mail_handle_of_mailsTo (s : Session) (h : CommandLine.MailsTo line address read) (available : s.console.canMail = true) :
    (s.handle line).state.console.queue.mail = s.console.queue.mail ++
      [⟨[address],
        Line.textOf ((s.console.lines ++ Console.echo line :: read.warnings.map Problem.line).rtake s.console.capacity)⟩] := by
  have mail := Console.mail_of_mailsTo (c := s.console.append (Console.echo line)) s.registry s.forwarder.delegate h available
  rw [← console_handle_of_written (CommandLine.isBlank_eq_false_of_read h.holds), ← Console.appendAll_cons, Console.text,
    Console.lines_appendAll (List.cons_ne_nil _ _)] at mail
  rw [List.rtake, List.length_append]
  exact mail

/-- A submitted line that asks for no mail leaves the mail in the queue as it is, and a blank one does as well. -/
theorem mail_handle_of_not_mailsTo (s : Session)
    (h : s.console.canMail = true → ∀ address read, ¬CommandLine.MailsTo line address read) :
    (s.handle line).state.console.queue.mail = s.console.queue.mail := by
  by_cases blank : Text.isBlank line = true
  · simp only [handle, blank, if_true]
  · rw [console_handle_of_written (Bool.eq_false_iff.2 blank)]
    exact Console.mail_of_not_mailsTo (c := s.console.append (Console.echo line)) h

/-- Mail carries the lines as they were seen when it was asked for. Whatever is in the buffer of the console, in its cap and in its
queues: a submitted line queues mail if and only if mail can be sent, the name of its command is the one for mail and its first argument is not
empty. Then it queues one mail, behind what is there. The one recipient is the argument, which is a word of the line in lower case. The body is
the text of the buffer when the echo of the line, as it was typed, and the report of a second command, if there is one, have been
appended under the cap. So it ends with the report or else with the echo, and the confirmation of the line is not in it. -/
theorem mail_carries_log (s : Session) (line : String) :
    let c := s.console
    let after := (s.handle line).state.console
    (after.queue.mail ≠ c.queue.mail ↔ c.canMail = true ∧ ∃ address read, CommandLine.MailsTo line address read) ∧
    ∀ address read, c.canMail = true → CommandLine.MailsTo line address read →
      let echo : Line := ⟨.command, "$ " ++ line⟩
      let seen := (c.lines ++ echo :: read.warnings.map Problem.line).rtake c.capacity
      let body := Line.textOf seen
      after.queue.mail = c.queue.mail ++ [⟨[address], body⟩] ∧
      (∃ word ∈ line.toList.splitOn ' ', address = Text.lowercase (String.ofList word)) ∧
      ∃ earlier last, seen = earlier ++ [last] ∧ (body = last.text ∨ ∃ front, body = front ++ "\n" ++ last.text) ∧
        (read.leftOut = none → last = echo) ∧
        ∀ rest, read.leftOut = some rest → last = Problem.line (.secondCommand rest.name) := by
  intro c after
  refine ⟨⟨fun changed => ?_, ?_⟩, ?_⟩
  · have asks := mt s.mail_handle_of_not_mailsTo changed
    simpa only [not_forall, not_not, exists_prop] using asks
  · rintro ⟨available, address, read, asks⟩ same
    rw [s.mail_handle_of_mailsTo asks available] at same
    exact List.cons_ne_nil _ _ (List.append_right_eq_self.1 same)
  · intro address read available asks echo seen body
    obtain ⟨told, last, all, alone, followed⟩ := read.exists_last_told echo
    obtain ⟨earlier, there⟩ := Console.rtake_concat_last (c.lines ++ told) last c
    rw [List.append_assoc, ← all] at there
    refine ⟨s.mail_handle_of_mailsTo asks available, asks.exists_word, earlier, last, there, ?_, alone, followed⟩
    have text : body = Line.textOf (earlier ++ [last]) := congrArg Line.textOf there
    rw [text]
    exact Line.textOf_concat earlier last

/-- Under a cap of one line, all that a mail carries is the report of a second command, or else the echo. -/
theorem mail_carries_log_one_line :
    let s : Session := { console := ({ lines := [⟨.info, "ready"⟩], canMail := true } : Console).recap 1 }
    let mail (line : String) : List Mail := (s.handle line).state.console.queue.mail
    CommandLine.MailsTo "-SendEmail Dev" "dev" ⟨⟨"sendemail", ["dev"]⟩, none⟩ ∧
      mail "-SendEmail Dev" = [⟨["dev"], "$ -SendEmail Dev"⟩] ∧
      CommandLine.MailsTo "Dev -SendEmail -Now" "dev" ⟨⟨"sendemail", ["dev"]⟩, some ⟨"now", []⟩⟩ ∧
      mail "Dev -SendEmail -Now" = [⟨["dev"], (Problem.secondCommand "now").message⟩] := by
  intro s mail
  have alone : CommandLine.MailsTo "-SendEmail Dev" "dev" ⟨⟨"sendemail", ["dev"]⟩, none⟩ :=
    ⟨by decide +kernel, rfl, rfl, by decide⟩
  have followed : CommandLine.MailsTo "Dev -SendEmail -Now" "dev" ⟨⟨"sendemail", ["dev"]⟩, some ⟨"now", []⟩⟩ :=
    ⟨by decide +kernel, rfl, rfl, by decide⟩
  obtain ⟨echo, -⟩ := (mail_carries_log s "-SendEmail Dev").2 _ _ rfl alone
  obtain ⟨report, -⟩ := (mail_carries_log s "Dev -SendEmail -Now").2 _ _ rfl followed
  exact ⟨alone, echo, followed, report⟩

end Session

end DebugConsole
