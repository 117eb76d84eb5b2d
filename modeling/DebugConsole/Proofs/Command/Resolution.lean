import DebugConsole.Console
import DebugConsole.Proofs.Command.Calls

/-!
# What the name of a command stands for

A name is looked up among the active stock commands first, then among the user commands, and it is unknown otherwise. The lemmas on
`Registry.resolve` say when each of its meanings is the answer; `dispatch_resolution` says what a line comes to then, for every
facade. `Stock.active` is the table that the help shows and `Registry.resolve` the gate that the dispatcher has, so the statement
also says that the two agree.
-/

namespace DebugConsole

/-! ## Stock commands -/

namespace Stock

/-- The name of a stock command is its own. -/
theorem ofName?_eq_some_iff {name : String} {c : Stock} : ofName? name = some c ↔ c.name = name := by
  constructor
  · intro h
    unfold ofName? at h
    have same := List.find?_some h
    exact eq_of_beq same
  · rintro rfl
    exact ofName?_name c

theorem mem_active_iff {mail : Bool} {c : Stock} : c ∈ active mail ↔ (mail || !c.needsMail) = true := by
  unfold active
  rw [List.mem_filter]
  exact and_iff_right (mem_all c)

/-- The call that belongs to a stock command with its first argument. Only a mail to nobody has none. -/
def call? (c : Stock) (argument : Option String) : Option Call :=
  let color := (ColorName.ofText (argument.getD "")).color
  match c with
  | enterFullscreen => some .enterFullscreen
  | exitFullscreen => some .exitFullscreen
  | closeConsole => some .closePanel
  | enableDiag => some (.setDiagnostics true)
  | disableDiag => some (.setDiagnostics false)
  | diagTextColor => some (.setColor .diagText color)
  | diagBackgroundColor => some (.setColor .diagBackground color)
  | backgroundColor => some (.setColor .background color)
  | textColor => some (.setColor .text color)
  | textBoxColor => some (.setColor .textField color)
  | consoleReset => some .reset
  | sendEmail => (argument.filter fun address => address ≠ "").map fun address => .sendMail [address]

/-- A plan makes the call that belongs to the command, and a command without a plan has none. -/
theorem call?_eq (c : Stock) (argument : Option String) :
    c.call? argument = (c.plan argument).toOption.map Plan.call := by
  cases c with
  | sendEmail =>
    cases argument with
    | none => rfl
    | some address =>
      by_cases empty : address = ""
      · subst empty
        rfl
      · simp [call?, plan, empty, Except.toOption]
  | _ => rfl

/-- The call of a plan does more than print. -/
theorem isPrint_call {c : Stock} {argument : Option String} {plan : Plan} (h : c.plan argument = .ok plan) :
    plan.call.isPrint = false := by
  cases c with
  | sendEmail =>
    simp only [Stock.plan] at h
    split at h
    · cases h
    · cases h
      rfl
  | _ =>
    cases h
    rfl

end Stock

/-! ## Meanings -/

namespace Registry

variable {registry : Registry} {delegate : Option (List String)} {mail : Bool} {name : String}

theorem contains_iff : registry.contains name = true ↔ ∃ n ∈ registry.names, Text.sameName n name = true := by
  simp [contains]

/-- The stock command that the gate of the dispatcher lets through is the one in the active table. -/
theorem gate_eq_some_iff {c : Stock} :
    ((Stock.ofName? name).filter fun c => !c.needsMail || mail) = some c ↔ c ∈ Stock.active mail ∧ c.name = name := by
  rw [Option.filter_eq_some_iff, Stock.ofName?_eq_some_iff, Stock.mem_active_iff, Bool.or_comm]
  exact and_comm

/-- An active stock command is what its name stands for, whatever is registered or listed. -/
theorem resolve_stock {c : Stock} (h : c ∈ Stock.active mail) (hn : c.name = name) :
    registry.resolve delegate mail name = .stock c := by
  unfold resolve
  rw [gate_eq_some_iff.2 ⟨h, hn⟩]

/-- Any other name is looked up among the user commands. -/
theorem resolve_user (h : ∀ c ∈ Stock.active mail, c.name ≠ name) :
    registry.resolve delegate mail name =
      match delegate with
      | some listed =>
        if registry.contains name || listed.any (fun n => Text.sameName n name) then .delegated else .unknown
      | none => if registry.contains name then .undeliverable else .unknown := by
  have gate : ((Stock.ofName? name).filter fun c => !c.needsMail || mail) = none := by
    rw [Option.eq_none_iff_forall_not_mem]
    intro c hc
    obtain ⟨active, named⟩ := gate_eq_some_iff.1 hc
    exact h c active named
  cases delegate <;> simp only [resolve, gate]

/-- With a delegate, a name that is registered or listed is forwarded. -/
theorem resolve_delegated (h : ∀ c ∈ Stock.active mail, c.name ≠ name) {listed : List String}
    (found : ∃ n ∈ registry.names ++ listed, Text.sameName n name = true) :
    registry.resolve (some listed) mail name = .delegated := by
  rw [resolve_user h]
  refine if_pos ?_
  rw [Bool.or_eq_true, contains_iff, List.any_eq_true]
  obtain ⟨n, hn, same⟩ := found
  rcases List.mem_append.1 hn with hn | hn
  · exact Or.inl ⟨n, hn, same⟩
  · exact Or.inr ⟨n, hn, same⟩

/-- Without a delegate, a name that is registered cannot be delivered. -/
theorem resolve_undeliverable (h : ∀ c ∈ Stock.active mail, c.name ≠ name) (found : registry.contains name = true) :
    registry.resolve none mail name = .undeliverable := by
  rw [resolve_user h]
  exact if_pos found

/-- A name that is neither registered nor listed is unknown. -/
theorem resolve_unknown (h : ∀ c ∈ Stock.active mail, c.name ≠ name)
    (absent : ∀ n ∈ registry.names ++ delegate.getD [], Text.sameName n name = false) :
    registry.resolve delegate mail name = .unknown := by
  have unregistered : registry.contains name = false := by
    rw [Bool.eq_false_iff, ne_eq, contains_iff]
    rintro ⟨n, hn, same⟩
    exact Bool.false_ne_true ((absent n (List.mem_append_left _ hn)).symm.trans same)
  rw [resolve_user h]
  cases delegate with
  | none => simp [unregistered]
  | some listed =>
    have unlisted : listed.any (fun n => Text.sameName n name) = false :=
      List.any_eq_false.2 fun n hn => Bool.eq_false_iff.1 (absent n (List.mem_append_right _ hn))
    simp [unregistered, unlisted]

/-- The active stock commands are what their names stand for, and nothing else stands for one. -/
theorem resolve_eq_stock_iff {c : Stock} :
    registry.resolve delegate mail name = .stock c ↔ c ∈ Stock.active mail ∧ c.name = name := by
  constructor
  · intro meaning
    by_cases stock : ∃ d ∈ Stock.active mail, d.name = name
    · obtain ⟨d, active, named⟩ := stock
      rw [resolve_stock active named] at meaning
      cases meaning
      exact ⟨active, named⟩
    · rw [resolve_user fun d active named => stock ⟨d, active, named⟩] at meaning
      cases delegate <;> simp only at meaning <;> split at meaning <;> cases meaning
  · rintro ⟨active, named⟩
    exact resolve_stock active named

end Registry

/-! ## Lines -/

/-- The call that reports a problem. -/
def Problem.report (p : Problem) : Call :=
  .print .both p.line

/-- What is reported of a line before its command is looked up. -/
def CommandLine.warnings (l : CommandLine) : List Problem :=
  l.leftOut.toList.map fun rest => .secondCommand rest.name

namespace Run

variable {σ : Type} {F : Facade σ}

/-- Carrying out a plan makes its call and prints otherwise. -/
theorem mutations_follow {plan : Stock.Plan} (h : plan.call.isPrint = false) (run : Run σ) :
    (run.follow F plan).mutations = run.mutations ++ [plan.call] := by
  have warned : (run.warn F plan.warning).mutations = run.mutations := by
    cases plan.warning with
    | none => rfl
    | some p => exact mutations_fail p run
  rw [follow_eq, ← warned, ← mutations_call h]
  split
  · exact mutations_print _ _ _
  · exact mutations_fail _ _

/-- Carrying out a plan forwards nothing, and the command stays given to whom it was. -/
theorem given_follow (plan : Stock.Plan) (run : Run σ) :
    (run.follow F plan).forwarded = run.forwarded ∧ (run.follow F plan).report.handler = run.report.handler := by
  rw [follow_eq]
  cases plan.warning <;> split <;> exact ⟨rfl, rfl⟩

/-- A stock command makes the call that belongs to it and prints otherwise. -/
theorem mutations_carryOut (c : Stock) (argument : Option String) (run : Run σ) :
    (run.carryOut F c argument).mutations = run.mutations ++ (c.call? argument).toList := by
  unfold carryOut
  rw [Stock.call?_eq]
  cases h : c.plan argument with
  | ok plan => exact mutations_follow (Stock.isPrint_call h) run
  | error p => exact (mutations_fail p run).trans (List.append_nil _).symm

theorem given_carryOut (c : Stock) (argument : Option String) (run : Run σ) :
    (run.carryOut F c argument).forwarded = run.forwarded ∧
      (run.carryOut F c argument).report.handler = run.report.handler := by
  unfold carryOut
  split
  · exact given_follow _ run
  · exact ⟨rfl, rfl⟩

/-- A plan with a call that never fails is carried out to its end: the warning, the call and the confirmation. -/
theorem follow_of_succeeds {plan : Stock.Plan} (succeeds : ∀ s, (F.perform plan.call s).answer = none) (run : Run σ) :
    (run.follow F plan).calls =
        run.calls ++ plan.warning.toList.map Problem.report ++ [plan.call, .print plan.destination plan.line] ∧
      (run.follow F plan).report.problems = run.report.problems ++ plan.warning.toList := by
  have answer : ((run.warn F plan.warning).call F plan.call).1 = none := succeeds _
  have warned : (run.warn F plan.warning).calls = run.calls ++ plan.warning.toList.map Problem.report ∧
      (run.warn F plan.warning).report.problems = run.report.problems ++ plan.warning.toList := by
    cases plan.warning with
    | none => exact ⟨(List.append_nil _).symm, (List.append_nil _).symm⟩
    | some p => exact ⟨rfl, rfl⟩
  simp only [follow_eq, answer]
  refine ⟨?_, warned.2⟩
  rw [calls_print, calls_call, warned.1, List.append_assoc _ [plan.call]]
  rfl

/-- A line when its command is looked up: a second command has been reported, if there is one. -/
def opened (F : Facade σ) (line : String) (read : CommandLine) (s : σ) : Run σ :=
  let run : Run σ := { state := s, log := CommandLine.trace line }
  (read.leftOut.elim run fun rest => run.fail F (.secondCommand rest.name)).note read.command.trace

/-- All that has happened until then is the report. -/
theorem opened_eq (F : Facade σ) (line : String) (read : CommandLine) (s : σ) :
    (opened F line read s).calls = read.warnings.map Problem.report ∧
      (opened F line read s).state = F.after (read.warnings.map Problem.report) s ∧
      (opened F line read s).forwarded = [] ∧ (opened F line read s).report.problems = read.warnings ∧
      (opened F line read s).report.handler = none := by
  unfold opened CommandLine.warnings
  cases read.leftOut <;> exact ⟨rfl, rfl, rfl, rfl, rfl⟩

end Run

/-- A line that holds a command is opened, and its command is given to whom its name stands for. -/
theorem dispatch_eq {σ : Type} (F : Facade σ) (registry : Registry) (delegate : Option (List String)) {line : String}
    {read : CommandLine} (h : CommandLine.read line = .ok read) (s : σ) :
    let given := (Run.opened F line read s).give F registry delegate read.command
    dispatch F registry delegate line s = { given with report := { given.report with command := some read.command } } := by
  unfold dispatch
  rw [h]
  rfl

/-- A line whose command has the name of an active stock command is given to it, which is carried out with the first argument. -/
theorem dispatch_stock {σ : Type} {F : Facade σ} {registry : Registry} {delegate : Option (List String)} {line : String}
    {read : CommandLine} {s : σ} {c : Stock} (h : CommandLine.read line = .ok read) (named : c.name = read.command.name)
    (active : c ∈ Stock.active (F.canMail (F.after (read.warnings.map Problem.report) s))) :
    let given := ((Run.opened F line read s).givenTo (.stock c)).carryOut F c read.command.argument?
    dispatch F registry delegate line s = { given with report := { given.report with command := some read.command } } := by
  obtain ⟨-, state, -, -, -⟩ := Run.opened_eq F line read s
  rw [← state] at active
  have meaning : registry.resolve delegate (F.canMail (Run.opened F line read s).state) read.command.name = .stock c :=
    Registry.resolve_stock active named
  simp only [dispatch_eq F registry delegate h s, Run.give, meaning]

/-- A line for a stock command with a plan that never fails reports a second command, if there is one, and does what the plan says. -/
theorem dispatch_plan {σ : Type} {F : Facade σ} {line : String} {read : CommandLine} {s : σ} {c : Stock} {plan : Stock.Plan}
    (h : CommandLine.read line = .ok read) (named : c.name = read.command.name)
    (active : c ∈ Stock.active (F.canMail (F.after (read.warnings.map Problem.report) s)))
    (made : c.plan read.command.argument? = .ok plan) (succeeds : ∀ s, (F.perform plan.call s).answer = none)
    (registry : Registry) (delegate : Option (List String)) :
    let run := dispatch F registry delegate line s
    let problems := read.warnings ++ plan.warning.toList
    run.report.handler = some (.stock c) ∧ run.report.problems = problems ∧
      run.calls = problems.map Problem.report ++ [plan.call, .print plan.destination plan.line] := by
  intro run problems
  obtain ⟨calls, -, -, warned, -⟩ := Run.opened_eq F line read s
  obtain ⟨-, handler⟩ := Run.given_follow (F := F) plan ((Run.opened F line read s).givenTo (.stock c))
  obtain ⟨madeCalls, madeProblems⟩ := Run.follow_of_succeeds succeeds ((Run.opened F line read s).givenTo (.stock c))
  have given : run = _ := dispatch_stock h named active
  rw [given]
  simp only [Run.carryOut, made]
  refine ⟨handler, madeProblems.trans (congrArg (· ++ _) warned), madeCalls.trans ?_⟩
  rw [List.map_append]
  exact congrArg (· ++ _ ++ _) calls

/-- Opening a line does no more than print. -/
theorem Run.mutations_opened {σ : Type} (F : Facade σ) (line : String) (read : CommandLine) (s : σ) :
    (Run.opened F line read s).mutations = [] := by
  unfold Run.opened
  cases read.leftOut with
  | none => rfl
  | some rest => exact Run.mutations_fail (F := F) (.secondCommand rest.name) { state := s, log := CommandLine.trace line }

/-- A line makes the call that belongs to the stock command that it was given to, and prints otherwise. -/
theorem mutations_dispatch {σ : Type} (F : Facade σ) (registry : Registry) (delegate : Option (List String)) (line : String)
    (s : σ) :
    let run := dispatch F registry delegate line s
    run.mutations = (run.report.stock?.bind fun c => c.call? (run.report.command.bind Command.argument?)).toList := by
  cases h : CommandLine.read line with
  | error reason =>
    unfold dispatch
    rw [h]
    cases reason with
    | blank => rfl
    | unmarked => exact Run.mutations_fail (F := F) .noCommand { state := s, log := CommandLine.trace line }
  | ok read =>
    obtain ⟨-, -, -, -, handler⟩ := Run.opened_eq F line read s
    have opened := Run.mutations_opened F line read s
    have failed : ∀ p, ((Run.opened F line read s).fail F p).mutations = [] ∧
        ((Run.opened F line read s).fail F p).report.handler = none :=
      fun p => ⟨(Run.mutations_fail p _).trans opened, handler⟩
    simp only [dispatch_eq F registry delegate h s, Run.give]
    split
    · rename_i stock _
      obtain ⟨-, given⟩ := Run.given_carryOut (F := F) stock read.command.argument?
        ((Run.opened F line read s).givenTo (.stock stock))
      refine (Run.mutations_carryOut stock _ _).trans ?_
      simp only [Report.stock?, given]
      show (Run.opened F line read s).mutations ++ _ = _
      rw [opened, List.nil_append]
      rfl
    · exact opened
    · simp only [Report.stock?, (failed _).2]
      exact (failed _).1
    · simp only [Report.stock?, (failed _).2]
      exact (failed _).1

/-- The command that the delegate was given, going by the report. -/
def Report.delegated? (r : Report) : Option Command :=
  match r.handler with
  | some (.delegate c) => some c
  | _ => none

theorem Report.stock?_eq_some_iff {r : Report} {c : Stock} : r.stock? = some c ↔ r.handler = some (.stock c) := by
  unfold stock?
  split <;> simp_all

/-- A line is given to a stock command if and only if its command has the name and the stock command is active. -/
theorem stock?_dispatch_iff {σ : Type} {F : Facade σ} {registry : Registry} {delegate : Option (List String)} {line : String}
    {s : σ} {c : Stock} :
    (dispatch F registry delegate line s).report.stock? = some c ↔
      ∃ read, CommandLine.read line = .ok read ∧ c.name = read.command.name ∧
        c ∈ Stock.active (F.canMail (F.after (read.warnings.map Problem.report) s)) := by
  constructor
  · intro given
    cases h : CommandLine.read line with
    | error reason =>
      unfold dispatch at given
      rw [h] at given
      cases reason <;> cases given
    | ok read =>
      obtain ⟨-, state, -, -, handler⟩ := Run.opened_eq F line read s
      have plain : (Run.opened F line read s).report.stock? = none := by
        simp only [Report.stock?, handler]
      rw [dispatch_eq F registry delegate h s] at given
      simp only [Run.give] at given
      split at given
      · rename_i stock meaning
        obtain ⟨-, kept⟩ := Run.given_carryOut (F := F) stock read.command.argument?
          ((Run.opened F line read s).givenTo (.stock stock))
        have same : some stock = some c := by
          rw [← given]
          simp only [Report.stock?, kept]
          rfl
        cases same
        obtain ⟨active, named⟩ := Registry.resolve_eq_stock_iff.1 meaning
        rw [state] at active
        exact ⟨read, rfl, named, active⟩
      · cases given
      · cases plain.symm.trans given
      · cases plain.symm.trans given
  · rintro ⟨read, h, named, active⟩
    rw [Report.stock?_eq_some_iff, dispatch_stock h named active]
    exact (Run.given_carryOut c read.command.argument? ((Run.opened F line read s).givenTo (.stock c))).2

theorem Report.delegated?_eq_some_iff {r : Report} {c : Command} :
    r.delegated? = some c ↔ r.handler = some (.delegate c) := by
  unfold delegated?
  split <;> simp_all

/-- A line forwards the command that the delegate was given, once, and nothing else. -/
theorem forwarded_dispatch {σ : Type} (F : Facade σ) (registry : Registry) (delegate : Option (List String)) (line : String)
    (s : σ) :
    let run := dispatch F registry delegate line s
    run.forwarded = run.report.delegated?.toList := by
  cases h : CommandLine.read line with
  | error reason =>
    unfold dispatch
    rw [h]
    cases reason <;> rfl
  | ok read =>
    obtain ⟨-, -, forwarded, -, handler⟩ := Run.opened_eq F line read s
    have failed : ∀ p, ((Run.opened F line read s).fail F p).forwarded =
        ((Run.opened F line read s).fail F p).report.delegated?.toList := by
      intro p
      have none : ((Run.opened F line read s).fail F p).report.handler = none := handler
      rw [Report.delegated?, none]
      exact forwarded
    simp only [dispatch_eq F registry delegate h s, Run.give]
    split
    · rename_i stock _
      obtain ⟨kept, given⟩ := Run.given_carryOut (F := F) stock read.command.argument?
        ((Run.opened F line read s).givenTo (.stock stock))
      refine kept.trans (forwarded.trans ?_)
      rw [Report.delegated?, given]
      rfl
    · exact congrArg (· ++ [read.command]) forwarded
    · exact failed _
    · exact failed _

/-- A line that is given to the delegate is one whose command is forwarded as it was read. All it reports is a second command, and all
it does to the console is to report it. -/
theorem dispatch_delegated {σ : Type} {F : Facade σ} {registry : Registry} {delegate : Option (List String)} {line : String}
    {s : σ} {c : Command} (h : (dispatch F registry delegate line s).report.delegated? = some c) :
    ∃ read, CommandLine.read line = .ok read ∧ read.command = c ∧
      (dispatch F registry delegate line s).report.command = some c ∧
      (dispatch F registry delegate line s).report.problems = read.warnings ∧
      (dispatch F registry delegate line s).calls = read.warnings.map Problem.report := by
  cases hr : CommandLine.read line with
  | error reason =>
    unfold dispatch at h
    rw [hr] at h
    cases reason <;> cases h
  | ok read =>
    obtain ⟨calls, -, -, problems, handler⟩ := Run.opened_eq F line read s
    rw [dispatch_eq F registry delegate hr s] at h ⊢
    refine ⟨read, rfl, ?_⟩
    have unfailed : ∀ p, ((Run.opened F line read s).fail F p).report.delegated? ≠ some c := by
      intro p given
      have none : ((Run.opened F line read s).fail F p).report.handler = none := handler
      rw [Report.delegated?, none] at given
      cases given
    simp only [Run.give] at h ⊢
    split at h
    · rename_i stock _
      obtain ⟨-, given⟩ := Run.given_carryOut (F := F) stock read.command.argument?
        ((Run.opened F line read s).givenTo (.stock stock))
      simp only [Report.delegated?, given] at h
      cases h
    · cases h
      exact ⟨rfl, rfl, problems, calls⟩
    · exact absurd h (unfailed _)
    · exact absurd h (unfailed _)

/-- Nothing came of a run but the report of some problems. -/
def Run.OnlyReports {σ : Type} (run : Run σ) (problems : List Problem) : Prop :=
  run.report.problems = problems ∧ run.report.handler = none ∧ run.forwarded = [] ∧
    run.calls = problems.map Problem.report

/-- What becomes of a line that holds a command, for any facade, registry and delegate. The console is where the calls of the line lead to.
The name of an active stock command stands for it, whatever is registered or listed: nothing is forwarded, and the one call besides printing is the one that belongs to the
command. Another name that is registered or listed is forwarded to the delegate, once and as it was read, and the console is left
alone. Without a delegate a registered name cannot be delivered. Any other name is unknown. -/
theorem dispatch_resolution {σ : Type} (F : Facade σ) (registry : Registry) (delegate : Option (List String)) (line : String)
    (s : σ) (read : CommandLine) (h : CommandLine.read line = .ok read) :
    let run := dispatch F registry delegate line s
    let name := read.command.name
    let warned := F.after (read.warnings.map Problem.report) s
    let stock := Stock.active (F.canMail warned)
    run.state = F.after run.calls s ∧
    (∀ c ∈ stock, c.name = name →
      run.report.handler = some (.stock c) ∧ run.forwarded = [] ∧
        run.mutations = (c.call? read.command.argument?).toList) ∧
    ((∀ c ∈ stock, c.name ≠ name) →
      (∀ listed, delegate = some listed → (∃ n ∈ registry.names ++ listed, Text.sameName n name = true) →
        run.report.handler = some (.delegate read.command) ∧ run.forwarded = [read.command] ∧
          run.report.problems = read.warnings ∧ run.calls = read.warnings.map Problem.report ∧ run.state = warned) ∧
      (delegate = none → (∃ n ∈ registry.names, Text.sameName n name = true) →
        run.OnlyReports (read.warnings ++ [.noDelegate name])) ∧
      ((∀ n ∈ registry.names ++ delegate.getD [], Text.sameName n name = false) →
        run.OnlyReports (read.warnings ++ [.unknownCommand name]))) := by
  refine ⟨traced_dispatch F registry delegate line s, ?_⟩
  obtain ⟨calls, state, forwarded, problems, handler⟩ := Run.opened_eq F line read s
  have mutations : (Run.opened F line read s).mutations = [] := by
    unfold Run.mutations
    rw [calls, List.filter_eq_nil_iff]
    intro c hc
    obtain ⟨p, -, rfl⟩ := List.mem_map.1 hc
    simp [Problem.report, Call.isPrint]
  have failed : ∀ p, ((Run.opened F line read s).fail F p).OnlyReports (read.warnings ++ [p]) := by
    intro p
    refine ⟨congrArg (· ++ [p]) problems, handler, forwarded, ?_⟩
    rw [Run.calls_fail, calls, List.map_append]
    rfl
  simp only [dispatch_eq F registry delegate h s]
  refine ⟨?_, ?_⟩
  · intro c active named
    have meaning : registry.resolve delegate _ read.command.name = .stock c := Registry.resolve_stock active named
    rw [← state] at meaning
    simp only [Run.give, meaning]
    obtain ⟨kept, given⟩ := Run.given_carryOut (F := F) c read.command.argument?
      ((Run.opened F line read s).givenTo (.stock c))
    refine ⟨given, kept.trans forwarded, ?_⟩
    refine (Run.mutations_carryOut c _ _).trans ?_
    show (Run.opened F line read s).mutations ++ _ = _
    rw [mutations, List.nil_append]
  · intro user
    refine ⟨?_, ?_, ?_⟩
    · rintro listed rfl found
      have meaning := Registry.resolve_delegated user found
      rw [← state] at meaning
      simp only [Run.give, meaning]
      exact ⟨rfl, congrArg (· ++ [read.command]) forwarded, problems, calls, state⟩
    · rintro rfl found
      have meaning := Registry.resolve_undeliverable user (Registry.contains_iff.2 found)
      rw [← state] at meaning
      simp only [Run.give, meaning]
      exact failed _
    · intro absent
      have meaning := Registry.resolve_unknown user absent
      rw [← state] at meaning
      simp only [Run.give, meaning]
      exact failed _

/-- While no mail can be sent, the name of the command for mails is one like any other: a delegate that lists it, in whatever case,
receives what was read. -/
theorem dispatch_resolution_sendemail :
    CommandLine.read "-SendEmail Dev -now" = .ok ⟨⟨"sendemail", ["dev"]⟩, some ⟨"now", []⟩⟩ ∧
      let run := dispatch Console.facade {} (some ["SENDEMAIL"]) "-SendEmail Dev -now" {}
      run.report.handler = some (.delegate ⟨"sendemail", ["dev"]⟩) ∧ run.forwarded = [⟨"sendemail", ["dev"]⟩] ∧
        run.report.problems = [.secondCommand "now"] := by
  have read : CommandLine.read "-SendEmail Dev -now" = .ok ⟨⟨"sendemail", ["dev"]⟩, some ⟨"now", []⟩⟩ := rfl
  have resolution := dispatch_resolution Console.facade {} (some ["SENDEMAIL"]) "-SendEmail Dev -now" {} _ read
  have user := (resolution.2.2 (by decide)).1 _ rfl ⟨"SENDEMAIL", by decide, by decide⟩
  exact ⟨read, user.1, user.2.1, user.2.2.1⟩

end DebugConsole
