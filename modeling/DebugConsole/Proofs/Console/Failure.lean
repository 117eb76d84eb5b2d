import DebugConsole.Proofs.Command.Course
import DebugConsole.Proofs.Console.Operation
import DebugConsole.Proofs.Session.Update

/-!
# All or nothing

A line either carries its command out or leaves the console as it was, apart from the messages about it. What makes the difference is
a problem that is no remark. It may come from the call of the command, which then did nothing (`state_of_refused`), or from before it,
and either way the line ends with it. The messages are appended to the console, and `appendAll_eq` says what that comes to under the
cap.
-/

namespace DebugConsole

namespace Console

/-! ## Messages -/

/-- A line that is appended pushes out the oldest ones as far as the cap demands it. -/
theorem lines_append (l : Line) (c : Console) :
    (c.append l).lines = (c.lines ++ [l]).drop (c.lines.length + 1 - c.capacity) := by
  have room := c.capacity_pos
  rw [List.drop_append_of_le_length (by omega)]
  rfl

/-- So do some lines. A buffer that was too long for the cap is cut down by the first of them. -/
theorem lines_appendAll {lines : List Line} (h : lines ≠ []) (c : Console) :
    (c.appendAll lines).lines = (c.lines ++ lines).drop (c.lines.length + lines.length - c.capacity) := by
  have room := c.capacity_pos
  induction lines generalizing c with
  | nil => exact absurd rfl h
  | cons l lines ih =>
    rw [appendAll_cons]
    cases lines with
    | nil => exact lines_append l c
    | cons next lines =>
      have length : (c.append l).lines.length = c.lines.length + 1 - (c.lines.length + 1 - c.capacity) := by
        rw [lines_append, List.length_drop, List.length_append, List.length_singleton]
      have within : c.lines.length + 1 - c.capacity ≤ (c.lines ++ [l]).length := by
        rw [List.length_append, List.length_singleton]
        omega
      have dropped : c.lines.length + 1 - c.capacity + ((c.append l).lines.length + (next :: lines).length - c.capacity) =
          c.lines.length + (l :: next :: lines).length - c.capacity := by
        simp only [length, List.length_cons]
        omega
      calc
        ((c.append l).appendAll (next :: lines)).lines
        _ = ((c.append l).lines ++ next :: lines).drop
              ((c.append l).lines.length + (next :: lines).length - c.capacity) :=
          ih (List.cons_ne_nil _ _) (c.append l) room
        _ = (c.lines ++ l :: next :: lines).drop (c.lines.length + (l :: next :: lines).length - c.capacity) := by
          rw [← dropped, ← List.drop_drop, lines_append, ← List.drop_append_of_le_length within, List.append_assoc,
            List.singleton_append]

/-- Lines that are appended change the buffer and the queue alone. -/
theorem appendAll_frame (lines : List Line) (c : Console) :
    c.appendAll lines = { c with lines := (c.appendAll lines).lines, queue := (c.appendAll lines).queue } := by
  induction lines generalizing c with
  | nil => rfl
  | cons l lines ih =>
    rw [appendAll_cons]
    exact ih (c.append l)

/-- What a console is when some lines were appended. -/
theorem appendAll_eq {lines : List Line} (h : lines ≠ []) (c : Console) :
    c.appendAll lines =
      { c with
        lines := (c.lines ++ lines).drop (c.lines.length + lines.length - c.capacity)
        queue := { c.queue with outputs := c.queue.outputs ++ lines } } := by
  rw [appendAll_frame, lines_appendAll h, queue_appendAll]

/-- Problems are reported by appending their lines. -/
theorem after_reports (problems : List Problem) (c : Console) :
    facade.after (problems.map Problem.report) c = c.appendAll (problems.map Problem.line) := by
  unfold Facade.after appendAll
  rw [List.foldl_map, List.foldl_map]
  rfl

/-! ## Refusals -/

/-- A call is refused because the operation that it stands for fails. -/
theorem error_of_refused {call : Call} {c : Console} {p : Problem} (h : (facade.perform call c).answer = some p) :
    (c.perform (opOf call)).answer = .error p := by
  cases answered : (c.perform (opOf call)).answer with
  | error reason =>
    simp only [facade, answered] at h
    exact congrArg Except.error (Option.some.inj h)
  | ok made =>
    simp only [facade, answered] at h
    cases h

/-- A call that is refused leaves the console as it was. -/
theorem state_of_refused {call : Call} {c : Console} {p : Problem} (h : (facade.perform call c).answer = some p) :
    (facade.perform call c).state = c :=
  state_of_error (error_of_refused h)

/-- A move of the panel is refused for a reason of the panel. -/
theorem error_movePanel {m : Move} {c : Console} {p : Problem} (h : (c.movePanel m).1 = .error p) :
    ∃ reason, p = .refused m.operation reason := by
  unfold movePanel at h
  split at h
  · rename_i reason _
    exact ⟨reason, (Except.error.inj h).symm⟩
  · cases h

/-- The console refuses no call with a remark. -/
theorem refusesPlainly : facade.RefusesPlainly := by
  intro call c p _ refused
  have plain : ∀ m, (c.movePanel m).1.map some = .error p → p.isRemark = false := by
    intro m error
    cases moved : (c.movePanel m).1 with
    | ok t =>
      rw [moved] at error
      cases error
    | error reason =>
      rw [moved] at error
      cases error
      obtain ⟨reason, rfl⟩ := error_movePanel moved
      rfl
  have error := error_of_refused refused
  cases call with
  | enterFullscreen => exact plain .enterFullscreen error
  | exitFullscreen => exact plain (.exitFullscreen none) error
  | closePanel => exact plain .closePanel error
  | _ => cases error

/-! ## Lines -/

/-- A stock command was carried out on a console, behind some messages. The call that belongs to it was made, it did not fail, and
nothing else was done besides printing the confirmation. -/
structure Completed (c : Console) (run : Run Console) (stock : Stock) (call : Call) : Prop where
  given : run.report.handler = some (.stock stock)
  belongs : stock.call? (run.report.command.bind Command.argument?) = some call
  mutations : run.mutations = [call]
  forwarded : run.forwarded = []
  answer : (facade.perform call (c.appendAll (run.report.problems.map Problem.line))).answer = none
  state : ∃ confirmation : Line, confirmation.level = .result ∧
    run.state = facade.after [call, .print run.report.destination confirmation]
      (c.appendAll (run.report.problems.map Problem.line))

/-- A user command was forwarded, and the console was left alone but for some messages. -/
structure Forwarded (c : Console) (run : Run Console) (command : Command) : Prop where
  given : run.report.handler = some (.delegate command)
  read : run.report.command = some command
  mutations : run.mutations = []
  forwarded : run.forwarded = [command]
  state : run.state = c.appendAll (run.report.problems.map Problem.line)

variable {registry : Registry} {delegate : Option (List String)} {line : String} {c : Console}

/-- A line that fails reports what went wrong and does nothing else. -/
theorem dispatch_of_failed {p : Problem} (reported : p ∈ (dispatch facade registry delegate line c).report.problems)
    (failed : p.isRemark = false) :
    let run := dispatch facade registry delegate line c
    run.state = c.appendAll (run.report.problems.map Problem.line) ∧ run.forwarded = [] := by
  intro run
  obtain ⟨course, takes, -⟩ := dispatch_takes facade registry delegate line c
  have failure : course.failure = some p := takes.failure_of_problem reported failed
  refine ⟨?_, ?_⟩
  · have unconfirmed : course.confirmation = none := by
      rw [← Option.not_isSome_iff_eq_none, takes.confirmed, failure]
      exact nofun
    -- If the line came to its call, the call was refused.
    have called : facade.after (course.remarks.map Problem.report ++ course.call.toList) c =
        facade.after (course.remarks.map Problem.report) c := by
      rw [Facade.after_append]
      cases call : course.call with
      | none => rfl
      | some made => exact state_of_refused ((takes.answer made call).2.trans failure)
    calc
      run.state
      _ = facade.after run.calls c := traced_dispatch facade registry delegate line c
      _ = facade.after [p.report] (facade.after (course.remarks.map Problem.report) c) := by
        rw [takes.calls, Course.calls, unconfirmed, failure, Option.toList_none, List.map_nil, List.append_nil,
          Facade.after_append, called]
        rfl
      _ = facade.after (run.report.problems.map Problem.report) c := by
        rw [← Facade.after_append, takes.problems, Course.problems, failure, List.map_append]
        rfl
      _ = c.appendAll (run.report.problems.map Problem.line) := after_reports _ c
  · show run.forwarded = []
    rw [forwarded_dispatch facade registry delegate line c]
    cases given : run.report.delegated? with
    | none => rfl
    | some command =>
      obtain ⟨read, -, -, -, problems, -⟩ := dispatch_delegated given
      rw [problems] at reported
      rw [(Run.remarked_opened facade line read c).remarks p reported] at failed
      cases failed

/-- A line that does not fail carries out a stock command or forwards a user command, unless it is blank. -/
theorem dispatch_of_unfailed (written : Text.isBlank line = false)
    (remarks : ∀ p ∈ (dispatch facade registry delegate line c).report.problems, p.isRemark = true) :
    let run := dispatch facade registry delegate line c
    (∃ stock call, Completed c run stock call) ∨ ∃ command, Forwarded c run command := by
  intro run
  obtain ⟨course, takes, ends⟩ := dispatch_takes facade registry delegate line c
  have unfailed : course.failure = none := takes.failure_eq_none refusesPlainly remarks
  have traced : run.state = facade.after run.calls c := traced_dispatch facade registry delegate line c
  have forwarded : run.forwarded = run.report.delegated?.toList := forwarded_dispatch facade registry delegate line c
  cases made : course.call with
  | some call =>
    obtain ⟨confirmation, confirmed⟩ := Option.isSome_iff_exists.1 (takes.confirmed.2 ⟨by rw [made]; rfl, unfailed⟩)
    obtain ⟨stock, given, belongs⟩ := Option.bind_eq_some_iff.1 ((call_eq_of_takes takes).symm.trans made)
    have problems : run.report.problems = course.remarks := takes.problems_eq_remarks unfailed
    have calls : run.calls = run.report.problems.map Problem.report ++ [call, .print run.report.destination confirmation] := by
      rw [problems, takes.calls, Course.calls, made, unfailed, confirmed, Option.toList_none, List.map_nil, List.append_nil,
        List.append_assoc]
      rfl
    have handler : run.report.handler = some (.stock stock) := Report.stock?_eq_some_iff.1 given
    refine Or.inl ⟨stock, call, handler, belongs, ?_, ?_, ?_, confirmation, takes.level confirmation confirmed, ?_⟩
    · rw [takes.mutations_eq, made]
      rfl
    · rw [forwarded, Report.delegated?, handler]
      rfl
    · rw [← after_reports, problems, ← unfailed]
      exact (takes.answer call made).2
    · rw [traced, calls, Facade.after_append, after_reports]
  | none =>
    cases given : run.report.delegated? with
    | none =>
      rw [given] at forwarded
      rcases ends written with called | failed | received
      · rw [made] at called
        cases called
      · rw [unfailed] at failed
        cases failed
      · exact absurd forwarded received
    | some command =>
      obtain ⟨read, -, -, stated, problems, calls⟩ := dispatch_delegated given
      refine Or.inr ⟨command, Report.delegated?_eq_some_iff.1 given, stated, ?_, ?_, ?_⟩
      · rw [takes.mutations_eq, made]
        rfl
      · rw [forwarded, given]
        rfl
      · rw [traced, calls, problems, after_reports]

/-- A line whose command did not run leaves the console as it was, apart from the messages about it. If it reports a problem that is no
remark, then all that changes is that one line for each problem is appended: in the queue of lines, and in the buffer, where the oldest
lines make room under the cap. The panel, the settings, the events and the mail in the queue, whether the host has to forget its lines,
the cap and whether mail can be sent stay as they were, and no delegate receives anything. Conversely a line that is not blank and
reports nothing but remarks takes effect once: either a stock command is carried out or a user command is forwarded, behind the lines
for the remarks. -/
theorem line_runs_or_only_reports (registry : Registry) (delegate : Option (List String)) (line : String) (c : Console) :
    let run := dispatch facade registry delegate line c
    let told := run.report.problems.map Problem.line
    ((∃ p ∈ run.report.problems, p.isRemark = false) →
      run.state =
          { c with
            lines := (c.lines ++ told).drop (c.lines.length + told.length - c.capacity)
            queue := { c.queue with outputs := c.queue.outputs ++ told } } ∧
        run.forwarded = [] ∧ ∀ f : Forwarder, f.receive run.forwarded = f) ∧
    (Text.isBlank line = false → (∀ p ∈ run.report.problems, p.isRemark = true) →
      (∃ stock call, Completed c run stock call) ∨ ∃ command, Forwarded c run command) := by
  intro run told
  refine ⟨?_, dispatch_of_unfailed⟩
  rintro ⟨p, reported, failed⟩
  obtain ⟨state, forwarded⟩ := dispatch_of_failed reported failed
  have nonempty : told ≠ [] := List.ne_nil_of_mem (List.mem_map_of_mem reported)
  have unforwarded : run.forwarded = [] := forwarded
  refine ⟨state.trans (appendAll_eq nonempty c), unforwarded, fun f => ?_⟩
  rw [unforwarded, Forwarder.receive_nil]

/-- On a full console a refused line leaves the last of its messages in the buffer and all of them in the queue, behind what was
there. -/
theorem line_runs_or_only_reports_full :
    let ready : Line := ⟨.info, "ready"⟩
    let c : Console := (({} : Console).recap 1).append ready
    let second := Problem.secondCommand "x"
    let refused := Problem.refused .enterFullscreen .setupRequired
    let run := dispatch facade {} none "-enterfullscreen -x" c
    run.report.problems = [second, refused] ∧
      run.state = { c with lines := [refused.line], queue := { outputs := [ready, second.line, refused.line] } } := by
  intro ready c second refused run
  have problems : run.report.problems = [second, refused] := by decide +kernel
  have reported : refused ∈ run.report.problems := by
    rw [problems]
    exact List.mem_cons_of_mem _ List.mem_cons_self
  obtain ⟨state, -, -⟩ := (line_runs_or_only_reports {} none "-enterfullscreen -x" c).1 ⟨refused, reported, rfl⟩
  refine ⟨problems, state.trans ?_⟩
  show { c with
    lines := (c.lines ++ run.report.problems.map Problem.line).drop
      (c.lines.length + (run.report.problems.map Problem.line).length - c.capacity)
    queue := { c.queue with outputs := c.queue.outputs ++ run.report.problems.map Problem.line } } = _
  rw [problems]
  rfl

end Console

end DebugConsole
