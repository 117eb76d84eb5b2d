import DebugConsole.Proofs.Command.Calls
import DebugConsole.Session

/-!
# The life of a console

From its start a console is operated, its settings are replaced, lines are dispatched to it or submitted in a session, and its
queues are drained, in any order. A `Console.Life` is a console after some of these steps, with all it has told its host and a
ledger of the lines that were appended to it.

A line does no more to a console than some operations one after the other (`state_dispatch`, `state_handle`). So what every single
operation, a replacement of the settings and a drain keep is kept by every life: this is `Life.run_induction`.
-/

namespace DebugConsole

namespace Console

/-- A console that nothing has happened to. -/
def fresh (settings : Settings) : Console :=
  { settings }

/-- The console after some operations, carried out one after the other. -/
def performAll (ops : List Op) (c : Console) : Console :=
  ops.foldl (fun c op => (c.perform op).state) c

@[simp]
theorem performAll_nil (c : Console) : c.performAll [] = c := rfl

@[simp]
theorem performAll_cons (op : Op) (ops : List Op) (c : Console) :
    c.performAll (op :: ops) = (c.perform op).state.performAll ops := rfl

/-- Calls of stock commands are the operations that they stand for. -/
theorem after_facade (calls : List Call) (c : Console) : facade.after calls c = c.performAll (calls.map opOf) := by
  induction calls generalizing c with
  | nil => rfl
  | cons call calls ih => exact ih (c.perform (opOf call)).state

/-- Something that happens to a console. -/
inductive Step
  | operate (op : Op)
  /-- All settings are replaced. -/
  | configure (settings : Settings)
  /-- A line is dispatched, with the names that the delegate lists if there is one. -/
  | process (registry : Registry) (delegate : Option (List String)) (line : String)
  /-- A submitted line is handled by a session. -/
  | submit (registry : Registry) (forwarder : Forwarder) (line : String)
  | drain

/-- What a console tells its host in a step, and the console afterwards. -/
def take (step : Step) (c : Console) : List Delivery × Console :=
  match step with
  | .operate op => ([], (c.perform op).state)
  | .configure settings => ([], c.withSettings settings)
  | .process registry delegate line => ([], (dispatch facade registry delegate line c).state)
  | .submit registry forwarder line =>
    ([], (Session.handle line { console := c, registry, forwarder }).state.console)
  | .drain => ([c.drain.1], c.drain.2)

/-- The echo of a submitted line. -/
def echo (line : String) : Line :=
  ⟨.command, Session.echoMark ++ line⟩

/-- The operations that are carried out in a step. -/
def Step.ops (step : Step) (c : Console) : List Op :=
  match step with
  | .operate op => [op]
  | .process registry delegate line => (dispatch facade registry delegate line c).calls.map opOf
  | .submit registry forwarder line =>
    if Text.isBlank line then []
    else
      .print .console (echo line) ::
        (dispatch facade registry forwarder.delegate line (c.append (echo line))).calls.map opOf
  | .configure _ | .drain => []

/-- The operations of a step are the one that is asked for, or those that the calls of a line stand for. -/
theorem Step.eq_or_call_of_mem_ops {step : Step} {c : Console} {op : Op} (h : op ∈ step.ops c) :
    step = .operate op ∨ ∃ call, op = opOf call := by
  cases step with
  | operate asked =>
    rw [Step.ops, List.mem_singleton] at h
    subst h
    exact Or.inl rfl
  | configure settings => cases h
  | drain => cases h
  | process registry delegate line =>
    obtain ⟨call, -, rfl⟩ := List.mem_map.1 h
    exact Or.inr ⟨call, rfl⟩
  | submit registry forwarder line =>
    by_cases blank : Text.isBlank line = true
    · rw [Step.ops, if_pos blank] at h
      cases h
    · rw [Step.ops, if_neg blank, List.mem_cons] at h
      rcases h with rfl | h
      · exact Or.inr ⟨.print .console (echo line), rfl⟩
      · obtain ⟨call, -, rfl⟩ := List.mem_map.1 h
        exact Or.inr ⟨call, rfl⟩

/-- A dispatched line does what its calls stand for. -/
theorem state_dispatch (registry : Registry) (delegate : Option (List String)) (line : String) (c : Console) :
    (dispatch facade registry delegate line c).state =
      c.performAll ((dispatch facade registry delegate line c).calls.map opOf) := by
  rw [← after_facade]
  exact traced_dispatch facade registry delegate line c

/-- A submitted line is echoed and then does what its calls stand for, unless it is blank. -/
theorem state_handle (registry : Registry) (forwarder : Forwarder) (line : String) (c : Console) :
    (Session.handle line { console := c, registry, forwarder }).state.console =
      c.performAll ((Step.submit registry forwarder line).ops c) := by
  by_cases blank : Text.isBlank line = true
  · simp only [Session.handle, Step.ops, blank, if_true, performAll_nil]
  · simp only [Session.handle, Step.ops, blank, Bool.false_eq_true, if_false, performAll_cons]
    exact state_dispatch registry forwarder.delegate line (c.append (echo line))

/-- The lines that were appended to a console since it was last cleared or reset. -/
structure Ledger where
  lines : List Line := []
  /-- Whether one of them was appended to a full buffer, so that the cap pushed out a line. -/
  evicted : Bool := false
deriving DecidableEq, Repr

namespace Ledger

/-- The ledger after an operation on a console. A console that is set up again is reset first, unless that is refused. -/
def note (c : Console) (op : Op) (k : Ledger) : Ledger :=
  match op with
  | .clear | .move .reset => {}
  | .move (.setup _ _) | .setupPinned _ _ _ =>
    if c.panel.isReady = true ∧ c.settings.liveEnvironment = false then {} else k
  | .print destination line =>
    if destination = .hostOnly then k
    else { lines := k.lines ++ [line], evicted := k.evicted || decide (c.capacity ≤ c.lines.length) }
  | _ => k

/-- The ledger after some operations on a console, carried out one after the other. -/
def noteAll : List Op → Console → Ledger → Ledger
  | [], _, k => k
  | op :: ops, c, k => noteAll ops (c.perform op).state (k.note c op)

end Ledger

/-- A console, all it has told its host, the oldest first, and the lines that were appended to it. -/
structure Life where
  console : Console
  told : List Delivery := []
  ledger : Ledger := {}

namespace Life

/-- The life of a console that starts with some settings. -/
def start (settings : Settings) : Life :=
  { console := fresh settings }

/-- The life after a step. -/
def after (step : Step) (life : Life) : Life :=
  { console := (life.console.take step).2
    told := life.told ++ (life.console.take step).1
    ledger := life.ledger.noteAll (step.ops life.console) life.console }

/-- The life after some steps, the first one first. -/
def run (steps : List Step) (life : Life) : Life :=
  steps.foldl (fun life step => life.after step) life

@[simp]
theorem run_nil (life : Life) : life.run [] = life := rfl

@[simp]
theorem run_cons (step : Step) (steps : List Step) (life : Life) :
    life.run (step :: steps) = (life.after step).run steps := rfl

theorem run_append (steps later : List Step) (life : Life) : life.run (steps ++ later) = (life.run steps).run later := by
  simp only [run, List.foldl_append]

/-- The life after a single operation. -/
def operate (op : Op) (life : Life) : Life :=
  { life with console := (life.console.perform op).state, ledger := life.ledger.note life.console op }

/-- What each of some operations keeps is kept by them, carried out one after the other. -/
theorem operateAll_induction {P : Life → Prop} (ops : List Op)
    (keep : ∀ op ∈ ops, ∀ life, P life → P (life.operate op)) (life : Life) (h : P life) :
    P { life with console := life.console.performAll ops, ledger := life.ledger.noteAll ops life.console } := by
  induction ops generalizing life with
  | nil => exact h
  | cons op ops ih =>
    have first : P (life.operate op) := keep op List.mem_cons_self life h
    exact ih (fun later member => keep later (List.mem_cons_of_mem op member)) (life.operate op) first

/-- A step that comes down to its operations keeps what each of them keeps. -/
theorem after_induction {P : Life → Prop} (step : Step) (life : Life)
    (keep : ∀ op ∈ step.ops life.console, ∀ life, P life → P (life.operate op))
    (told : (life.console.take step).1 = [])
    (state : (life.console.take step).2 = life.console.performAll (step.ops life.console)) (h : P life) :
    P (life.after step) := by
  have all := operateAll_induction (step.ops life.console) keep life h
  unfold after
  rw [told, state, List.append_nil]
  exact all

/-- What the operations of some kinds of steps, replacements of the settings and drains keep is kept by every life of such steps. -/
theorem run_induction_within {P : Life → Prop} {A : Step → Prop}
    (operate : ∀ step, A step → ∀ c, ∀ op ∈ step.ops c, ∀ life, P life → P (life.operate op))
    (configure : ∀ life settings, A (.configure settings) → P life → P (life.after (.configure settings)))
    (drain : ∀ life, P life → P (life.after .drain)) (steps : List Step) (within : ∀ step ∈ steps, A step) (life : Life)
    (h : P life) : P (life.run steps) := by
  induction steps generalizing life with
  | nil => exact h
  | cons step steps ih =>
    have allowed : A step := within step List.mem_cons_self
    have keep := operate step allowed life.console
    apply ih fun later member => within later (List.mem_cons_of_mem step member)
    cases step with
    | configure settings => exact configure life settings allowed h
    | drain => exact drain life h
    | operate op => exact after_induction (.operate op) life keep rfl rfl h
    | process registry delegate line =>
      exact after_induction _ life keep rfl (state_dispatch registry delegate line life.console) h
    | submit registry forwarder line =>
      exact after_induction _ life keep rfl (state_handle registry forwarder line life.console) h

/-- What operations, replacements of the settings and drains keep is kept by every life. -/
theorem run_induction {P : Life → Prop} (operate : ∀ life op, P life → P (life.operate op))
    (configure : ∀ life settings, P life → P (life.after (.configure settings)))
    (drain : ∀ life, P life → P (life.after .drain)) (steps : List Step) (life : Life) (h : P life) :
    P (life.run steps) :=
  run_induction_within (A := fun _ => True) (fun _ _ _ op _ life => operate life op)
    (fun life settings _ => configure life settings) drain steps (fun _ _ => trivial) life h

end Life

end Console

end DebugConsole
