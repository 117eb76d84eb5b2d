import DebugConsole.Proofs.Console.Failure

/-!
# Mail

A console that is asked for mail queues it with the lines that it has at that time. There it stays until the next drain: no other
operation takes mail out of the queue, and a clear or a reset does not either (`mail_perform`). A line asks for mail once at most, by
the call of its command (`mail_dispatch`).
-/

namespace DebugConsole

/-- To whom a call asks for mail. -/
def Call.recipients? : Call → Option (List String)
  | .sendMail recipients => some recipients
  | _ => none

/-- The mail that a line asks for when it is dispatched to a console. Its body holds the messages about the line as well. -/
def Run.requests (run : Run Console) (c : Console) : List Mail :=
  (run.mutations.filterMap Call.recipients?).map fun recipients =>
    ⟨recipients, (c.appendAll (run.report.problems.map Problem.line)).text⟩

namespace Console

/-- The mail that an operation asks for. -/
def Op.requests (op : Op) (c : Console) : List Mail :=
  match op with
  | .sendMail recipients => [⟨recipients, c.text⟩]
  | _ => []

@[simp]
theorem mail_movePanel (m : Move) (c : Console) : (c.movePanel m).2.queue.mail = c.queue.mail := by
  unfold movePanel
  split <;> rfl

/-- A move leaves the mail in the queue, even if it is a reset. -/
theorem mail_move (m : Move) (c : Console) : (c.move m).state.queue.mail = c.queue.mail := by
  apply move_induction (P := fun d => d.queue.mail = c.queue.mail) m rfl rfl
  intro d m _ before
  rw [mail_movePanel, before]

/-- An operation queues the mail that it asks for behind what is there. -/
theorem mail_perform (op : Op) (c : Console) : (c.perform op).state.queue.mail = c.queue.mail ++ op.requests c := by
  cases op with
  | sendMail recipients => rfl
  | move m => exact (mail_move m c).trans (List.append_nil _).symm
  | setupPinned mount corner size =>
    obtain ⟨settings, pinned⟩ := state_setupPinned mount corner size c
    rw [pinned]
    exact (mail_move (.setup mount .usual) c).trans (List.append_nil _).symm
  | print destination line => cases destination <;> exact (List.append_nil _).symm
  | _ => exact (List.append_nil _).symm

theorem mail_call (call : Call) (c : Console) :
    (facade.perform call c).state.queue.mail =
      c.queue.mail ++ call.recipients?.toList.map fun recipients => ⟨recipients, c.text⟩ := by
  have mail := mail_perform (opOf call) c
  cases call <;> exact mail

/-- Printing asks for no mail. -/
theorem mail_after_prints {calls : List Call} (h : ∀ call ∈ calls, call.isPrint = true) (c : Console) :
    (facade.after calls c).queue.mail = c.queue.mail := by
  induction calls generalizing c with
  | nil => rfl
  | cons call calls ih =>
    have first : call.recipients? = none := by
      cases call with
      | print d l => rfl
      | _ => cases h _ List.mem_cons_self
    have rest := ih (fun later member => h later (List.mem_cons_of_mem call member)) (facade.perform call c).state
    rw [mail_call, first] at rest
    exact rest.trans (List.append_nil _)

/-- Asking for mail does not fail. -/
theorem answer_of_recipients {call : Call} {recipients : List String} (h : call.recipients? = some recipients) (c : Console) :
    (facade.perform call c).answer = none := by
  cases call with
  | sendMail recipients => rfl
  | _ => cases h

/-- The mail that a line asks for is queued behind what is there. -/
theorem mail_dispatch (registry : Registry) (delegate : Option (List String)) (line : String) (c : Console) :
    let run := dispatch facade registry delegate line c
    run.state.queue.mail = c.queue.mail ++ run.requests c := by
  intro run
  obtain ⟨course, takes, -⟩ := dispatch_takes facade registry delegate line c
  let warned := c.appendAll (course.remarks.map Problem.line)
  have prints : ∀ call ∈ course.failure.toList.map Problem.report ++
      course.confirmation.toList.map (Call.print run.report.destination), call.isPrint = true := by
    intro call member
    rcases List.mem_append.1 member with failed | confirmed
    · obtain ⟨p, -, rfl⟩ := List.mem_map.1 failed
      rfl
    · obtain ⟨l, -, rfl⟩ := List.mem_map.1 confirmed
      rfl
  -- Only the call of the command may ask for mail, and it is made when the remarks have been appended.
  have mail : run.state.queue.mail = (facade.after course.call.toList warned).queue.mail := by
    have traced : run.state = facade.after run.calls c := traced_dispatch facade registry delegate line c
    rw [traced, takes.calls, Course.calls, List.append_assoc, Facade.after_append, mail_after_prints prints,
      Facade.after_append, after_reports]
  have queued : warned.queue.mail = c.queue.mail := by
    rw [queue_appendAll]
  have mutations : run.mutations = course.call.toList := takes.mutations_eq
  rw [mail, Run.requests, mutations]
  cases made : course.call with
  | none => exact queued.trans (List.append_nil _).symm
  | some call =>
    have called := mail_call call warned
    rw [queued] at called
    refine called.trans ?_
    cases asked : call.recipients? with
    | none =>
      rw [Option.toList_some, Option.toList_none, List.filterMap_cons_none asked]
      rfl
    | some recipients =>
      have unfailed : course.failure = none :=
        (takes.answer call made).2.symm.trans (answer_of_recipients asked _)
      have problems : run.report.problems = course.remarks := takes.problems_eq_remarks unfailed
      rw [Option.toList_some, Option.toList_some, List.filterMap_cons_some asked, problems]
      rfl

end Console

end DebugConsole
