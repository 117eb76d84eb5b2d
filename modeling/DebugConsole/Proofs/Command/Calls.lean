import DebugConsole.Command.Dispatch

/-!
# What a line does to a console

A dispatched line reaches the console through its calls alone. `Run.Traced` says so of a run on its way: its state is the one that
the calls it has made lead to. It is one of the properties that every step of the dispatcher keeps (`Run.Kept`), so it holds of the line as a
whole (`traced_dispatch`), and what every call keeps is kept by every line.

Beside it are the laws of the steps: which calls they add, and which of these do more than print.
-/

namespace DebugConsole

/-- The state after some calls, made one after the other. -/
def Facade.after {σ : Type} (F : Facade σ) (calls : List Call) (s : σ) : σ :=
  calls.foldl (fun s c => (F.perform c s).state) s

namespace Facade

variable {σ : Type} (F : Facade σ)

theorem after_append (before calls : List Call) (s : σ) :
    F.after (before ++ calls) s = F.after calls (F.after before s) := by
  simp only [after, List.foldl_append]

end Facade

namespace Run

variable {σ : Type} {F : Facade σ}

/-- The calls of a run that do more than print. -/
def mutations (run : Run σ) : List Call :=
  run.calls.filter fun c => !c.isPrint

/-! ## The steps of a run -/

@[simp]
theorem calls_call (c : Call) (run : Run σ) : (run.call F c).2.calls = run.calls ++ [c] := rfl

@[simp]
theorem calls_print (d : Destination) (l : Line) (run : Run σ) :
    (run.print F d l).calls = run.calls ++ [.print d l] := rfl

@[simp]
theorem calls_fail (p : Problem) (run : Run σ) : (run.fail F p).calls = run.calls ++ [.print .both p.line] := rfl

/-- A printed line is no mutation. -/
@[simp]
theorem mutations_print (d : Destination) (l : Line) (run : Run σ) : (run.print F d l).mutations = run.mutations := by
  simp [mutations, Call.isPrint]

/-- A report is no mutation. -/
@[simp]
theorem mutations_fail (p : Problem) (run : Run σ) : (run.fail F p).mutations = run.mutations := by
  simp [mutations, Call.isPrint]

/-- A call that does more than print is the next mutation. -/
theorem mutations_call {c : Call} (h : c.isPrint = false) (run : Run σ) :
    (run.call F c).2.mutations = run.mutations ++ [c] := by
  simp [mutations, h]

/-- A run in which a warning has been reported, if there is one. -/
def warn (F : Facade σ) (warning : Option Problem) (run : Run σ) : Run σ :=
  warning.elim run fun p => run.fail F p

/-- Carrying out a plan: its warning, its call, and the confirmation or the problem with the call. -/
theorem follow_eq (plan : Stock.Plan) (run : Run σ) :
    run.follow F plan =
      match ((run.warn F plan.warning).call F plan.call).1 with
      | none => ((run.warn F plan.warning).call F plan.call).2.print F plan.destination plan.line
      | some p => ((run.warn F plan.warning).call F plan.call).2.fail F p := by
  simp only [Run.follow, warn]
  rcases Run.call F plan.call _ with ⟨_ | p, after⟩ <;> rfl

/-! ## What every step keeps -/

/-- A property of runs that every step keeps. -/
structure Kept (F : Facade σ) (P : Run σ → Prop) : Prop where
  call : ∀ {run : Run σ}, P run → ∀ c, P (run.call F c).2
  fail : ∀ {run : Run σ}, P run → ∀ p, P (run.fail F p)
  note : ∀ {run : Run σ}, P run → ∀ e, P (run.note e)
  givenTo : ∀ {run : Run σ}, P run → ∀ handler, P (run.givenTo handler)
  forward : ∀ {run : Run σ}, P run → ∀ c, P (run.forward c)
  read : ∀ {run : Run σ}, P run → ∀ command, P { run with report := { run.report with command } }

namespace Kept

variable {P : Run σ → Prop} {run : Run σ}

theorem warn (kept : Kept F P) (h : P run) (warning : Option Problem) : P (run.warn F warning) := by
  cases warning with
  | none => exact h
  | some p => exact kept.fail h p

theorem follow (kept : Kept F P) (h : P run) (plan : Stock.Plan) : P (run.follow F plan) := by
  have called := kept.call (kept.warn h plan.warning) plan.call
  rw [follow_eq]
  split
  · exact kept.call called _
  · exact kept.fail called _

theorem carryOut (kept : Kept F P) (h : P run) (c : Stock) (argument : Option String) : P (run.carryOut F c argument) := by
  unfold Run.carryOut
  split
  · exact kept.follow h _
  · exact kept.fail h _

theorem give (kept : Kept F P) (h : P run) (registry : Registry) (delegate : Option (List String)) (c : Command) :
    P (run.give F registry delegate c) := by
  unfold Run.give
  split
  · exact kept.carryOut (kept.givenTo h _) _ _
  · exact kept.forward h c
  · exact kept.fail h _
  · exact kept.fail h _

/-- So it holds when a line has been handled, if it does at the start. -/
theorem dispatch (kept : Kept F P) {line : String} {s : σ} (start : P { state := s, log := CommandLine.trace line })
    (registry : Registry) (delegate : Option (List String)) : P (dispatch F registry delegate line s) := by
  unfold DebugConsole.dispatch
  split
  · exact start
  · exact kept.fail start _
  · rename_i read _
    have reported : P (read.leftOut.elim { state := s, log := CommandLine.trace line } fun rest =>
        Run.fail F (.secondCommand rest.name) { state := s, log := CommandLine.trace line }) := by
      cases read.leftOut with
      | none => exact start
      | some rest => exact kept.fail start _
    exact kept.read (kept.give (kept.note reported read.command.trace) registry delegate read.command) _

end Kept

/-! ## The state is reached by the calls -/

/-- The state of a run is the one that its calls lead to from the state at its start. -/
def Traced (F : Facade σ) (s : σ) (run : Run σ) : Prop :=
  run.state = F.after run.calls s

/-- Only calls change the state. -/
theorem kept_traced (F : Facade σ) (s : σ) : Kept F (Traced F s) := by
  have call : ∀ {run : Run σ}, Traced F s run → ∀ c, Traced F s (run.call F c).2 := by
    intro run h c
    show (F.perform c run.state).state = F.after (run.calls ++ [c]) s
    rw [Facade.after_append, ← h]
    rfl
  exact {
    call
    fail := fun h p => call h (.print .both p.line)
    note := fun h _ => h
    givenTo := fun h _ => h
    forward := fun h _ => h
    read := fun h _ => h }

end Run

/-- A line reaches the console through its calls alone. -/
theorem traced_dispatch {σ : Type} (F : Facade σ) (registry : Registry) (delegate : Option (List String)) (line : String)
    (s : σ) : Run.Traced F s (dispatch F registry delegate line s) :=
  (Run.kept_traced F s).dispatch rfl registry delegate

/-- What reading a line leaves in the log of the host is the first of what the line leaves there. -/
theorem trace_isPrefix_dispatch {σ : Type} (F : Facade σ) (registry : Registry) (delegate : Option (List String)) (line : String)
    (s : σ) : CommandLine.trace line <+: (dispatch F registry delegate line s).log := by
  have call : ∀ {run : Run σ}, CommandLine.trace line <+: run.log → ∀ c, CommandLine.trace line <+: (run.call F c).2.log :=
    fun h _ => h.trans (List.prefix_append _ _)
  have kept : Run.Kept F fun run => CommandLine.trace line <+: run.log := {
    call
    fail := fun h p => call h (.print .both p.line)
    note := fun h _ => h.trans (List.prefix_append _ _)
    givenTo := fun h _ => h
    forward := fun h _ => h
    read := fun h _ => h }
  exact kept.dispatch (List.prefix_refl _) registry delegate

end DebugConsole
