import DebugConsole.Proofs.Command.Resolution

/-!
# States that commands cannot tell apart

A map from the states of one facade to those of another is a simulation if every call does the same to a state and to its image:
the same answer, the same entries in the log, and states that correspond again. A line then does the same as well
(`dispatch_map`), since calls are all that it is made of.
-/

namespace DebugConsole

variable {σ τ α : Type}

/-- The outcome with its state mapped. -/
def Outcome.map (f : σ → τ) (o : Outcome σ α) : Outcome τ α :=
  { answer := o.answer, state := f o.state, log := o.log }

/-- The run with its state mapped. -/
def Run.map (f : σ → τ) (run : Run σ) : Run τ :=
  { state := f run.state, calls := run.calls, forwarded := run.forwarded, log := run.log, report := run.report }

/-- A map of states after which every call goes as it did before. -/
structure Facade.Simulates (F : Facade σ) (G : Facade τ) (f : σ → τ) : Prop where
  canMail : ∀ s, G.canMail (f s) = F.canMail s
  perform : ∀ call s, G.perform call (f s) = (F.perform call s).map f

namespace Run

variable {F : Facade σ} {G : Facade τ} {f : σ → τ}

theorem call_map (h : F.Simulates G f) (c : Call) (run : Run σ) :
    (run.map f).call G c = ((run.call F c).1, (run.call F c).2.map f) := by
  simp only [call, map, h.perform, Outcome.map]

theorem print_map (h : F.Simulates G f) (d : Destination) (l : Line) (run : Run σ) :
    (run.map f).print G d l = (run.print F d l).map f := by
  unfold print
  rw [call_map h]

theorem fail_map (h : F.Simulates G f) (p : Problem) (run : Run σ) : (run.map f).fail G p = (run.fail F p).map f := by
  unfold fail
  rw [print_map h]
  rfl

theorem warn_map (h : F.Simulates G f) (warning : Option Problem) (run : Run σ) :
    (run.map f).warn G warning = (run.warn F warning).map f := by
  cases warning with
  | none => rfl
  | some p => exact fail_map h p run

theorem follow_map (h : F.Simulates G f) (plan : Stock.Plan) (run : Run σ) :
    (run.map f).follow G plan = (run.follow F plan).map f := by
  rw [follow_eq, follow_eq, warn_map h, call_map h]
  cases ((run.warn F plan.warning).call F plan.call).1 with
  | none => exact print_map h _ _ _
  | some p => exact fail_map h p _

theorem carryOut_map (h : F.Simulates G f) (c : Stock) (argument : Option String) (run : Run σ) :
    (run.map f).carryOut G c argument = (run.carryOut F c argument).map f := by
  unfold carryOut
  cases c.plan argument with
  | ok plan => exact follow_map h plan run
  | error p => exact fail_map h p run

theorem give_map (h : F.Simulates G f) (registry : Registry) (delegate : Option (List String)) (c : Command)
    (run : Run σ) : (run.map f).give G registry delegate c = (run.give F registry delegate c).map f := by
  have mail : G.canMail (run.map f).state = F.canMail run.state := h.canMail run.state
  unfold give
  rw [mail]
  cases registry.resolve delegate (F.canMail run.state) c.name with
  | stock s => exact carryOut_map h s c.argument? (run.givenTo (.stock s))
  | delegated => rfl
  | undeliverable => exact fail_map h _ run
  | unknown => exact fail_map h _ run

theorem opened_map (h : F.Simulates G f) (line : String) (read : CommandLine) (s : σ) :
    opened G line read (f s) = (opened F line read s).map f := by
  unfold opened
  cases read.leftOut with
  | none => rfl
  | some rest =>
    have failed := fail_map h (.secondCommand rest.name) { state := s, log := CommandLine.trace line }
    exact congrArg (note read.command.trace) failed

end Run

/-- A line goes as it did before, whatever a simulation has done to the state. -/
theorem dispatch_map {F : Facade σ} {G : Facade τ} {f : σ → τ} (h : F.Simulates G f) (registry : Registry)
    (delegate : Option (List String)) (line : String) (s : σ) :
    dispatch G registry delegate line (f s) = (dispatch F registry delegate line s).map f := by
  cases hr : CommandLine.read line with
  | error reason =>
    unfold dispatch
    rw [hr]
    cases reason with
    | blank => rfl
    | unmarked => exact Run.fail_map h .noCommand { state := s, log := CommandLine.trace line }
  | ok read =>
    have given := Run.give_map h registry delegate read.command (Run.opened F line read s)
    rw [← Run.opened_map h] at given
    rw [dispatch_eq F registry delegate hr s, dispatch_eq G registry delegate hr (f s), given]
    rfl

end DebugConsole
