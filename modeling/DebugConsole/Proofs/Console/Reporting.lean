import DebugConsole.Proofs.Command.Course
import DebugConsole.Proofs.Console.Operation
import DebugConsole.Proofs.Session.Confinement

/-!
# What a host learns of problems

A problem with a line is reported by printing a line of its own, to the console and to the log of the host. The console queues it behind
all that it has to tell already. There it stays until the next drain, unless the console is reset first, and one line can do both: a
second command on the line is reported before the first one is carried out, and that may be the reset.

`reports_reach_host` says that this is the only exception. A line that does not reset the console leaves in the queue what was there,
then its problems in order, then the confirmation of its command. A line that resets it leaves nothing in the queue, as any reset does.
The log of the host has the problems in either case.
-/

namespace DebugConsole

/-- The line that a call shows on the console. -/
def Call.shown? : Call → Option Line
  | .print .hostOnly _ => none
  | .print _ l => some l
  | _ => none

/-- The lines that reports show. -/
theorem shown_reports (problems : List Problem) :
    (problems.map Problem.report).filterMap Call.shown? = problems.map Problem.line := by
  rw [List.filterMap_map, ← List.filterMap_eq_map]
  rfl

/-- The lines that printing to the console shows. -/
theorem shown_prints (lines : List Line) : (lines.map (Call.print .both)).filterMap Call.shown? = lines := by
  rw [List.filterMap_map]
  exact List.filterMap_some

/-- A line whose command is confirmed on the console, if at all, shows its problems and then the confirmation. -/
theorem Run.Takes.shown {σ : Type} {F : Facade σ} {s : σ} {run : Run σ} {course : Course} (h : run.Takes F s course)
    (both : run.report.destination = .both) :
    run.calls.filterMap Call.shown? = run.report.problems.map Problem.line ++ course.confirmation.toList := by
  have call : course.call.toList.filterMap Call.shown? = [] := by
    rw [List.filterMap_eq_nil_iff]
    intro call member
    have apart := (h.answer call (Option.mem_toList.1 member)).1
    cases call with
    | print d l => cases apart
    | _ => rfl
  rw [h.calls, h.problems, both, Course.calls, Course.problems, List.filterMap_append, List.filterMap_append,
    List.filterMap_append, shown_reports, shown_reports, shown_prints, call, List.append_nil, List.map_append]

namespace Console

/-! ## The queue -/

/-- A call queues the line that it shows, unless it resets the console. -/
theorem outputs_call {call : Call} (h : call ≠ .reset) (c : Console) :
    (facade.perform call c).state.queue.outputs = c.queue.outputs ++ call.shown?.toList := by
  cases call with
  | reset => exact absurd rfl h
  | print d l => cases d <;> first | rfl | exact (List.append_nil _).symm
  | enterFullscreen => exact (outputs_movePanel .enterFullscreen c).trans (List.append_nil _).symm
  | exitFullscreen => exact (outputs_movePanel (.exitFullscreen none) c).trans (List.append_nil _).symm
  | closePanel => exact (outputs_movePanel .closePanel c).trans (List.append_nil _).symm
  | _ => exact (List.append_nil _).symm

/-- Calls queue the lines that they show, as long as none of them resets the console. -/
theorem outputs_after {calls : List Call} (h : Call.reset ∉ calls) (c : Console) :
    (facade.after calls c).queue.outputs = c.queue.outputs ++ calls.filterMap Call.shown? := by
  induction calls generalizing c with
  | nil => exact (List.append_nil _).symm
  | cons call calls ih =>
    rw [List.mem_cons, not_or] at h
    have rest := ih h.2 (facade.perform call c).state
    have first := outputs_call (Ne.symm h.1) c
    show (facade.after calls (facade.perform call c).state).queue.outputs = _
    rw [rest, first, List.append_assoc, List.filterMap_cons]
    cases call.shown? <;> rfl

/-- A reset empties the queue of lines and has the host forget those it was told. -/
theorem outputs_after_reset (calls : List Call) (c : Console) :
    (facade.after (calls ++ [.reset]) c).queue.outputs = [] ∧ (facade.after (calls ++ [.reset]) c).queue.cleared = true := by
  rw [Facade.after_append]
  exact ⟨rfl, rfl⟩

/-- A reset does not fail. -/
theorem answer_reset (c : Console) : (facade.perform .reset c).answer = none := rfl

/-! ## The log -/

/-- The reported problems are in the log, in order. -/
def Logged (run : Run Console) : Prop :=
  (run.report.problems.map fun p => LogEntry.ofLine p.line).Sublist run.log

/-- A problem is entered in the log as it is reported. -/
theorem kept_logged : Run.Kept facade Logged where
  call h _ := h.trans (List.sublist_append_left _ _)
  fail := by
    intro run h p
    show ((run.report.problems ++ [p]).map fun p => LogEntry.ofLine p.line).Sublist (run.log ++ [.ofLine p.line])
    rw [List.map_append]
    exact h.append (List.Sublist.refl _)
  note h _ := h.trans (List.sublist_append_left _ _)
  givenTo h _ := h
  forward h _ := h
  read h _ := h

theorem logged_dispatch (registry : Registry) (delegate : Option (List String)) (line : String) (c : Console) :
    Logged (dispatch facade registry delegate line c) :=
  kept_logged.dispatch (List.nil_sublist _) registry delegate

/-! ## Lines -/

/-- A line that does not reset the console queues its problems and then its confirmation. -/
theorem outputs_dispatch {registry : Registry} {delegate : Option (List String)} {line : String} {c : Console}
    (other : (dispatch facade registry delegate line c).report.stock? ≠ some .consoleReset) :
    let run := dispatch facade registry delegate line c
    ∃ confirmation : Option Line, (∀ l ∈ confirmation, l.level = .result) ∧
      run.state.queue.outputs = c.queue.outputs ++ run.report.problems.map Problem.line ++ confirmation.toList := by
  intro run
  obtain ⟨course, takes, -⟩ := dispatch_takes facade registry delegate line c
  refine ⟨course.confirmation, takes.level, ?_⟩
  have unreset : Call.reset ∉ run.calls := fun member => other (reset_mem_calls_iff.1 member)
  have shown := takes.shown (if_neg other)
  have traced : run.state = facade.after run.calls c := traced_dispatch facade registry delegate line c
  rw [traced, outputs_after unreset, shown, List.append_assoc]

/-- A line that resets the console has reported a second command, if there was one, and nothing else. -/
theorem problems_dispatch_reset {registry : Registry} {delegate : Option (List String)} {line : String} {c : Console}
    (reset : (dispatch facade registry delegate line c).report.stock? = some .consoleReset) :
    ∃ read, CommandLine.read line = .ok read ∧ (dispatch facade registry delegate line c).report.problems = read.warnings := by
  obtain ⟨read, holds, named, active⟩ := stock?_dispatch_iff.1 reset
  obtain ⟨-, -, -, problems, -⟩ := Run.opened_eq facade line read c
  refine ⟨read, holds, ?_⟩
  rw [dispatch_stock holds named active]
  exact problems

/-- A line that resets the console makes some remarks first, and all it does afterwards is to confirm the reset out of sight. -/
theorem calls_dispatch_reset {registry : Registry} {delegate : Option (List String)} {line : String} {c : Console}
    (reset : (dispatch facade registry delegate line c).report.stock? = some .consoleReset) :
    ∃ (remarks : List Problem) (confirmation : Line),
      (dispatch facade registry delegate line c).calls =
        remarks.map Problem.report ++ [.reset] ++ [.print .hostOnly confirmation] := by
  obtain ⟨course, takes, -⟩ := dispatch_takes facade registry delegate line c
  have call : course.call = some .reset := by
    rw [call_eq_of_takes takes, reset]
    rfl
  have unfailed : course.failure = none := by
    rw [← (takes.answer .reset call).2]
    exact answer_reset _
  obtain ⟨confirmation, confirmed⟩ := Option.isSome_iff_exists.1 (takes.confirmed.2 ⟨by rw [call]; rfl, unfailed⟩)
  have hostOnly : (dispatch facade registry delegate line c).report.destination = .hostOnly := if_pos reset
  refine ⟨course.remarks, confirmation, ?_⟩
  rw [takes.calls, hostOnly, Course.calls, call, unfailed, confirmed]
  simp

/-- A line that resets the console leaves nothing in the queue of lines. -/
theorem outputs_dispatch_reset {registry : Registry} {delegate : Option (List String)} {line : String} {c : Console}
    (reset : (dispatch facade registry delegate line c).report.stock? = some .consoleReset) :
    let run := dispatch facade registry delegate line c
    run.state.queue.outputs = [] ∧ run.state.queue.cleared = true := by
  intro run
  obtain ⟨remarks, confirmation, calls⟩ := calls_dispatch_reset reset
  have traced : run.state = facade.after run.calls c := traced_dispatch facade registry delegate line c
  rw [traced, calls, Facade.after_append]
  exact outputs_after_reset (remarks.map Problem.report) c

/-- The problems with a line reach the host. If the line does not reset the console, then the next drain tells them in order, behind
what was queued before and in front of the confirmation. If it does, the drain has the host clear what it shows and tells nothing
that was queued before or during the line, and all there is to miss is the report of a second command. In either case the log of the
host has the problems, in order. -/
theorem reports_reach_host (registry : Registry) (delegate : Option (List String)) (line : String) (c : Console) :
    let run := dispatch facade registry delegate line c
    let told := run.state.drain.1
    (run.report.stock? ≠ some .consoleReset →
      ∃ confirmation : Option Line, (∀ l ∈ confirmation, l.level = .result) ∧
        told.outputs = c.queue.outputs ++ run.report.problems.map Problem.line ++ confirmation.toList) ∧
    (run.report.stock? = some .consoleReset →
      told.outputs = [] ∧ told.cleared = true ∧
        ∃ read, CommandLine.read line = .ok read ∧ run.report.problems = read.warnings) ∧
    (run.report.problems.map fun p => LogEntry.ofLine p.line).Sublist run.log := by
  intro run told
  refine ⟨outputs_dispatch, ?_, logged_dispatch registry delegate line c⟩
  intro reset
  obtain ⟨outputs, cleared⟩ := outputs_dispatch_reset reset
  exact ⟨outputs, cleared, problems_dispatch_reset reset⟩

/-- A line that gives rise to two problems tells both, behind what was queued before it. -/
theorem reports_reach_host_in_turn :
    let ready : Line := ⟨.info, "ready"⟩
    let run := dispatch facade {} none "-textcolor pink -x" (({} : Console).append ready)
    run.report.stock? ≠ some .consoleReset ∧ ∃ confirmation : Option Line, (∀ l ∈ confirmation, l.level = .result) ∧
      run.state.drain.1.outputs =
        [ready, Problem.line (.secondCommand "x"), Problem.line (.unknownColor "pink" .green)] ++ confirmation.toList := by
  intro ready run
  have other : run.report.stock? ≠ some .consoleReset := by decide +kernel
  have problems : run.report.problems = [.secondCommand "x", .unknownColor "pink" .green] := by decide +kernel
  obtain ⟨confirmation, level, outputs⟩ := (reports_reach_host {} none "-textcolor pink -x" (({} : Console).append ready)).1 other
  refine ⟨other, confirmation, level, outputs.trans ?_⟩
  show _ ++ run.report.problems.map Problem.line ++ _ = _
  rw [problems]
  rfl

/-- A reset drops the report of the second command on its line. -/
theorem reset_drops_report :
    let run := dispatch facade {} none "-consolereset -x" {}
    run.report.problems = [.secondCommand "x"] ∧ run.state.drain.1.outputs = [] ∧
      ¬(run.report.problems.map Problem.line).Sublist run.state.drain.1.outputs := by
  intro run
  have problems : run.report.problems = [.secondCommand "x"] := by decide +kernel
  have outputs : run.state.drain.1.outputs = [] := by decide +kernel
  refine ⟨problems, outputs, ?_⟩
  rw [problems, outputs, List.sublist_nil]
  exact List.cons_ne_nil _ _

end Console

end DebugConsole
