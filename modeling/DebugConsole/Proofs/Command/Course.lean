import DebugConsole.Proofs.Command.Resolution

/-!
# The course of a line

Whatever a line does to a console, it does in one order. First it makes remarks, which are problems that do not keep it from going on.
Then comes the one call that belongs to its command, if the line gets that far. It ends with a problem or with the confirmation of the
command. A `Course` is made of these four parts, and `Run.Takes` says of a run that its calls and its report are what they amount to.

A run that has made remarks only (`Run.Remarked`) can end there, fail, or follow the plan of a stock command, and each of the three
is a course. So every line takes one (`dispatch_takes`), and `prints_eq_reports` says what a user reads of it.
-/

namespace DebugConsole

/-- Whether a line goes on after a problem. -/
def Problem.isRemark : Problem → Bool
  | .secondCommand _ | .unknownColor _ _ => true
  | _ => false

/-- Where the stock command of a report is confirmed. A reset has left no lines, so its confirmation is for the log of the host. -/
def Report.destination (r : Report) : Destination :=
  if r.stock? = some .consoleReset then .hostOnly else .both

namespace Stock

/-- What a plan has to report first is a remark. -/
theorem isRemark_warning {c : Stock} {argument : Option String} {plan : Plan} (h : c.plan argument = .ok plan) :
    ∀ p ∈ plan.warning, p.isRemark = true := by
  have color : ∀ slot what, ∀ p ∈ (colorPlan slot what argument).warning, p.isRemark = true := by
    intro slot what p member
    simp only [colorPlan] at member
    split at member
    · cases member
    · cases member
      rfl
  cases c with
  | sendEmail =>
    simp only [Stock.plan] at h
    split at h
    · cases h
    · cases h
      intro p member
      cases member
  | enterFullscreen | exitFullscreen | closeConsole | enableDiag | disableDiag | consoleReset =>
    cases h
    intro p member
    cases member
  | diagTextColor | diagBackgroundColor | backgroundColor | textColor | textBoxColor =>
    cases h
    exact color _ _

/-- What keeps a command from being carried out is no remark. -/
theorem isRemark_of_plan_error {c : Stock} {argument : Option String} {p : Problem} (h : c.plan argument = .error p) :
    p.isRemark = false := by
  cases c with
  | sendEmail =>
    simp only [Stock.plan] at h
    split at h
    · cases h
      rfl
    · cases h
  | _ => cases h

/-- Of the plans that of a reset alone is confirmed out of sight. -/
theorem destination_of_plan {c : Stock} {argument : Option String} {plan : Plan} (h : c.plan argument = .ok plan) :
    plan.destination = if c = .consoleReset then .hostOnly else .both := by
  cases c with
  | sendEmail =>
    simp only [Stock.plan] at h
    split at h
    · cases h
    · cases h
      rfl
  | _ =>
    cases h
    rfl

end Stock

/-- All that a line does to a console, in order. -/
structure Course where
  remarks : List Problem := []
  /-- The call that belongs to the command. -/
  call : Option Call := none
  /-- The problem that the line ends with. -/
  failure : Option Problem := none
  confirmation : Option Line := none

namespace Course

/-- The problems on the way. -/
def problems (c : Course) : List Problem :=
  c.remarks ++ c.failure.toList

/-- The calls on the way, with the confirmation printed to some destination. -/
def calls (c : Course) (d : Destination) : List Call :=
  c.remarks.map Problem.report ++ c.call.toList ++ c.failure.toList.map Problem.report ++
    c.confirmation.toList.map (Call.print d)

end Course

namespace Run

variable {σ : Type} {F : Facade σ} {s : σ} {run : Run σ}

/-- A run takes a course from a state. -/
structure Takes (F : Facade σ) (s : σ) (run : Run σ) (c : Course) : Prop where
  calls : run.calls = c.calls run.report.destination
  problems : run.report.problems = c.problems
  remarks : ∀ p ∈ c.remarks, p.isRemark = true
  /-- The call does more than print. If it fails, the line ends with the problem. -/
  answer : ∀ call, c.call = some call →
    call.isPrint = false ∧ (F.perform call (F.after (c.remarks.map Problem.report) s)).answer = c.failure
  /-- What a line ends with before it comes to a call is no remark. -/
  failure : c.call = none → ∀ p ∈ c.failure, p.isRemark = false
  confirmed : c.confirmation.isSome = true ↔ c.call.isSome = true ∧ c.failure = none
  level : ∀ l ∈ c.confirmation, l.level = .result
  /-- Calls belong to stock commands. -/
  stock : c.call.isSome = true → run.report.stock?.isSome = true
  /-- A stock command makes its call or fails. -/
  carriedOut : run.report.stock?.isSome = true → c.call = none → c.failure.isSome = true

/-- Some remarks are all that a run has come to so far. -/
structure Remarked (F : Facade σ) (s : σ) (run : Run σ) (remarks : List Problem) : Prop where
  calls : run.calls = remarks.map Problem.report
  state : run.state = F.after (remarks.map Problem.report) s
  problems : run.report.problems = remarks
  remarks : ∀ p ∈ remarks, p.isRemark = true

variable {remarks : List Problem}

/-- Another remark. -/
theorem Remarked.warn (h : run.Remarked F s remarks) {warning : Option Problem} (remark : ∀ p ∈ warning, p.isRemark = true) :
    (run.warn F warning).Remarked F s (remarks ++ warning.toList) := by
  cases warning with
  | none =>
    rw [Option.toList_none, List.append_nil]
    exact h
  | some p =>
    refine ⟨?_, ?_, congrArg (· ++ [p]) h.problems, ?_⟩
    · rw [Run.warn, Option.elim_some, calls_fail, h.calls, List.map_append]
      rfl
    · rw [Option.toList_some, List.map_append, Facade.after_append, ← h.state]
      rfl
    · intro q member
      rcases List.mem_append.1 member with before | new
      · exact h.remarks q before
      · exact remark q (Option.mem_toList.1 new)

/-- A line may come to nothing but remarks, unless it is given to a stock command. -/
theorem Remarked.takes (h : run.Remarked F s remarks) (apart : run.report.stock? = none) : run.Takes F s { remarks } where
  calls := by simp [Course.calls, h.calls]
  problems := by simp [Course.problems, h.problems]
  remarks := h.remarks
  answer := nofun
  failure := nofun
  confirmed := ⟨nofun, fun made => nomatch made.1⟩
  level := nofun
  stock := nofun
  carriedOut given := by simp [apart] at given

/-- After the remarks a line may fail. -/
theorem Remarked.takes_fail (h : run.Remarked F s remarks) {p : Problem} (ends : p.isRemark = false) :
    (run.fail F p).Takes F s { remarks, failure := some p } where
  calls := by simp [Course.calls, h.calls, Problem.report]
  problems := congrArg (· ++ [p]) h.problems
  remarks := h.remarks
  answer := nofun
  failure _ q same := by
    cases same
    exact ends
  confirmed := ⟨nofun, fun made => nomatch made.1⟩
  level := nofun
  stock := nofun
  carriedOut _ _ := rfl

/-- After the remarks a stock command may make its call and be confirmed. -/
theorem Remarked.takes_confirm (h : run.Remarked F s remarks) (given : run.report.stock?.isSome = true) {call : Call}
    (apart : call.isPrint = false) (made : (run.call F call).1 = none) {l : Line} (level : l.level = .result) :
    ((run.call F call).2.print F run.report.destination l).Takes F s { remarks, call := some call, confirmation := some l } where
  calls := by
    show run.calls ++ [call] ++ [.print run.report.destination l] = Course.calls _ run.report.destination
    simp [Course.calls, h.calls]
  problems := by
    show run.report.problems = _
    simp [Course.problems, h.problems]
  remarks := h.remarks
  answer := by
    rintro _ ⟨⟩
    rw [← h.state]
    exact ⟨apart, made⟩
  failure := nofun
  confirmed := ⟨fun _ => ⟨rfl, rfl⟩, fun _ => rfl⟩
  level := by
    rintro _ ⟨⟩
    exact level
  stock _ := given
  carriedOut := nofun

/-- After the remarks a stock command may make its call in vain. -/
theorem Remarked.takes_refuse (h : run.Remarked F s remarks) (given : run.report.stock?.isSome = true) {call : Call}
    (apart : call.isPrint = false) {p : Problem} (refused : (run.call F call).1 = some p) :
    ((run.call F call).2.fail F p).Takes F s { remarks, call := some call, failure := some p } where
  calls := by
    show run.calls ++ [call] ++ [p.report] = Course.calls _ _
    simp [Course.calls, h.calls]
  problems := congrArg (· ++ [p]) h.problems
  remarks := h.remarks
  answer := by
    rintro _ ⟨⟩
    rw [← h.state]
    exact ⟨apart, refused⟩
  failure := nofun
  confirmed := ⟨nofun, fun made => nomatch made.2⟩
  level := nofun
  stock _ := given
  carriedOut := nofun

/-- A plan is followed to the confirmation or to the problem with its call. -/
theorem Remarked.takes_follow (h : run.Remarked F s remarks) {c : Stock} {argument : Option String} {plan : Stock.Plan}
    (given : run.report.stock? = some c) (planned : c.plan argument = .ok plan) :
    ∃ course : Course, (run.follow F plan).Takes F s course ∧ course.call = some plan.call := by
  have warned := h.warn (Stock.isRemark_warning planned)
  have apart := Stock.isPrint_call planned
  have stock : (run.warn F plan.warning).report.stock? = some c := by
    rw [← given]
    cases plan.warning <;> rfl
  have isStock : (run.warn F plan.warning).report.stock?.isSome = true := by
    rw [stock]
    rfl
  have destination : plan.destination = (run.warn F plan.warning).report.destination := by
    simp only [Report.destination, stock, Stock.destination_of_plan planned, Option.some.injEq]
  rw [follow_eq]
  cases answered : ((run.warn F plan.warning).call F plan.call).1 with
  | none =>
    rw [destination]
    exact ⟨_, warned.takes_confirm isStock apart answered rfl, rfl⟩
  | some p => exact ⟨_, warned.takes_refuse isStock apart answered, rfl⟩

/-- A stock command takes a course to its call or to a problem. -/
theorem Remarked.takes_carryOut (h : run.Remarked F s remarks) {c : Stock} (given : run.report.stock? = some c)
    (argument : Option String) :
    ∃ course : Course, (run.carryOut F c argument).Takes F s course ∧
      (course.call.isSome = true ∨ course.failure.isSome = true) := by
  unfold carryOut
  cases planned : c.plan argument with
  | ok plan =>
    obtain ⟨course, takes, call⟩ := h.takes_follow given planned
    exact ⟨course, takes, Or.inl (by rw [call]; rfl)⟩
  | error p => exact ⟨_, h.takes_fail (Stock.isRemark_of_plan_error planned), Or.inr rfl⟩

/-- Of a line that holds a command the second one is the only remark when the first is looked up. -/
theorem remarked_opened (F : Facade σ) (line : String) (read : CommandLine) (s : σ) :
    (opened F line read s).Remarked F s read.warnings := by
  obtain ⟨calls, state, -, problems, -⟩ := opened_eq F line read s
  refine ⟨calls, state, problems, ?_⟩
  intro p member
  obtain ⟨rest, -, rfl⟩ := List.mem_map.1 member
  rfl

/-- Whomever a command is given to, the line takes a course to a call, to a problem or to the delegate. -/
theorem takes_give (F : Facade σ) (registry : Registry) (delegate : Option (List String)) (line : String)
    (read : CommandLine) (s : σ) :
    let run := (opened F line read s).give F registry delegate read.command
    ∃ course : Course, run.Takes F s course ∧
      (course.call.isSome = true ∨ course.failure.isSome = true ∨ run.forwarded ≠ []) := by
  have opened := remarked_opened F line read s
  simp only [give]
  split
  · rename_i c _
    have given : ((Run.opened F line read s).givenTo (.stock c)).Remarked F s read.warnings :=
      ⟨opened.calls, opened.state, opened.problems, opened.remarks⟩
    obtain ⟨course, takes, ends⟩ := given.takes_carryOut rfl read.command.argument?
    exact ⟨course, takes, ends.imp_right Or.inl⟩
  · have forwarded : ((Run.opened F line read s).forward read.command).Remarked F s read.warnings :=
      ⟨opened.calls, opened.state, opened.problems, opened.remarks⟩
    refine ⟨_, forwarded.takes rfl, Or.inr (Or.inr ?_)⟩
    exact List.append_ne_nil_of_right_ne_nil _ (List.cons_ne_nil _ _)
  · exact ⟨_, opened.takes_fail rfl, Or.inr (Or.inl rfl)⟩
  · exact ⟨_, opened.takes_fail rfl, Or.inr (Or.inl rfl)⟩

end Run

/-- A line is read as blank if and only if it is. -/
theorem CommandLine.read_eq_blank_iff {line : String} : read line = .error .blank ↔ Text.isBlank line = true := by
  unfold read
  by_cases blank : Text.isBlank line = true
  · simp only [blank, if_true]
  · simp only [blank, Bool.false_eq_true, if_false, iff_false]
    split <;> exact nofun

/-- Every line takes a course. A line that is not blank takes one to a call, to a problem or to the delegate. -/
theorem dispatch_takes {σ : Type} (F : Facade σ) (registry : Registry) (delegate : Option (List String)) (line : String)
    (s : σ) :
    let run := dispatch F registry delegate line s
    ∃ course : Course, run.Takes F s course ∧
      (Text.isBlank line = false → course.call.isSome = true ∨ course.failure.isSome = true ∨ run.forwarded ≠ []) := by
  have start : Run.Remarked F s { state := s, log := CommandLine.trace line } [] := ⟨rfl, rfl, rfl, nofun⟩
  cases h : CommandLine.read line with
  | ok read =>
    rw [dispatch_eq F registry delegate h s]
    obtain ⟨course, takes, ends⟩ := Run.takes_give F registry delegate line read s
    -- The command in the report is of no account to the course.
    exact ⟨course, ⟨takes.calls, takes.problems, takes.remarks, takes.answer, takes.failure, takes.confirmed, takes.level,
      takes.stock, takes.carriedOut⟩, fun _ => ends⟩
  | error reason =>
    unfold dispatch
    rw [h]
    cases reason with
    | blank =>
      refine ⟨_, start.takes rfl, fun written => ?_⟩
      exact absurd (CommandLine.read_eq_blank_iff.1 h) (Bool.eq_false_iff.1 written)
    | unmarked => exact ⟨_, start.takes_fail rfl, fun _ => Or.inr (Or.inl rfl)⟩

/-- No call that does more than print fails with a remark. -/
def Facade.RefusesPlainly {σ : Type} (F : Facade σ) : Prop :=
  ∀ call s p, call.isPrint = false → (F.perform call s).answer = some p → p.isRemark = false

namespace Run

variable {σ : Type} {F : Facade σ} {s : σ} {run : Run σ} {course : Course}

/-- Calls that print are all of them prints. -/
theorem filter_isPrint_map {α : Type} {f : α → Call} (h : ∀ a, (f a).isPrint = true) (as : List α) :
    (as.map f).filter Call.isPrint = as.map f := by
  rw [List.filter_eq_self]
  intro c member
  obtain ⟨a, -, rfl⟩ := List.mem_map.1 member
  exact h a

/-- Calls that print do no more. -/
theorem filter_not_isPrint_map {α : Type} {f : α → Call} (h : ∀ a, (f a).isPrint = true) (as : List α) :
    (as.map f).filter (fun c => !c.isPrint) = [] := by
  rw [List.filter_eq_nil_iff]
  intro c member
  obtain ⟨a, -, rfl⟩ := List.mem_map.1 member
  rw [h a]
  exact Bool.false_ne_true

/-- The call of a course is all that does more than print. -/
theorem Takes.mutations_eq (h : run.Takes F s course) : run.mutations = course.call.toList := by
  have call : course.call.toList.filter (fun c => !c.isPrint) = course.call.toList := by
    rw [List.filter_eq_self]
    intro c member
    rw [(h.answer c (Option.mem_toList.1 member)).1]
    rfl
  rw [mutations, h.calls, Course.calls, List.filter_append, List.filter_append, List.filter_append,
    filter_not_isPrint_map fun _ => rfl, filter_not_isPrint_map fun _ => rfl, filter_not_isPrint_map fun _ => rfl, call,
    List.nil_append, List.append_nil, List.append_nil]

/-- What a course prints is what it reports, and the confirmation. -/
theorem Takes.prints_eq (h : run.Takes F s course) :
    run.calls.filter Call.isPrint =
      run.report.problems.map Problem.report ++ course.confirmation.toList.map (Call.print run.report.destination) := by
  have call : course.call.toList.filter Call.isPrint = [] := by
    rw [List.filter_eq_nil_iff]
    intro c member
    rw [(h.answer c (Option.mem_toList.1 member)).1]
    exact Bool.false_ne_true
  rw [h.calls, h.problems, Course.calls, Course.problems, List.filter_append, List.filter_append, List.filter_append,
    filter_isPrint_map fun _ => rfl, filter_isPrint_map fun _ => rfl, filter_isPrint_map fun _ => rfl, call, List.append_nil,
    List.map_append]

/-- A line that does not fail reports its remarks. -/
theorem Takes.problems_eq_remarks (h : run.Takes F s course) (unfailed : course.failure = none) :
    run.report.problems = course.remarks := by
  rw [h.problems, Course.problems, unfailed, Option.toList_none, List.append_nil]

/-- A problem that is no remark is the one that the line ends with. -/
theorem Takes.failure_of_problem (h : run.Takes F s course) {p : Problem} (reported : p ∈ run.report.problems)
    (ends : p.isRemark = false) : course.failure = some p := by
  rw [h.problems, Course.problems, List.mem_append] at reported
  rcases reported with remark | failure
  · rw [h.remarks p remark] at ends
    cases ends
  · exact Option.mem_toList.1 failure

/-- Unless a call fails with a remark, a line that reports nothing but remarks does not fail. -/
theorem Takes.failure_eq_none (h : run.Takes F s course) (plain : F.RefusesPlainly)
    (remarks : ∀ p ∈ run.report.problems, p.isRemark = true) : course.failure = none := by
  rw [h.problems, Course.problems] at remarks
  rw [Option.eq_none_iff_forall_not_mem]
  -- A failure would be reported too, and it is no remark, whether it comes from the call or before it.
  intro p failed
  have remark : p.isRemark = true := remarks p (List.mem_append_right _ (Option.mem_toList.2 failed))
  cases call : course.call with
  | none => exact Bool.false_ne_true ((h.failure call p failed).symm.trans remark)
  | some c =>
    obtain ⟨apart, answer⟩ := h.answer c call
    exact Bool.false_ne_true ((plain c _ p apart (answer.trans failed)).symm.trans remark)

/-- Unless a call fails with a remark, a command is confirmed if and only if nothing but remarks was reported. -/
theorem Takes.confirmed_iff (h : run.Takes F s course) (plain : F.RefusesPlainly) :
    course.confirmation.isSome = true ↔
      run.report.stock?.isSome = true ∧ ∀ p ∈ run.report.problems, p.isRemark = true := by
  rw [h.confirmed]
  constructor
  · rintro ⟨made, unfailed⟩
    refine ⟨h.stock made, ?_⟩
    rw [h.problems_eq_remarks unfailed]
    exact h.remarks
  · rintro ⟨given, remarks⟩
    have unfailed := h.failure_eq_none plain remarks
    refine ⟨?_, unfailed⟩
    rw [Option.isSome_iff_ne_none]
    intro uncalled
    have failed := h.carriedOut given uncalled
    rw [unfailed] at failed
    cases failed

end Run

/-- The course that a line takes has the call that belongs to the stock command. -/
theorem call_eq_of_takes {σ : Type} {F : Facade σ} {registry : Registry} {delegate : Option (List String)} {line : String}
    {s : σ} {course : Course} (h : (dispatch F registry delegate line s).Takes F s course) :
    let report := (dispatch F registry delegate line s).report
    course.call = report.stock?.bind fun c => c.call? (report.command.bind Command.argument?) := by
  have mutations := h.mutations_eq.symm.trans (mutations_dispatch F registry delegate line s)
  have first := congrArg List.head? mutations
  rwa [Option.head?_toList, Option.head?_toList] at first

/-- What a line prints is what it reports. Over any facade a line takes a course: its remarks are printed, then the call of its
command is made, if it gets that far, and then the problem with it is printed, or else the confirmation. So the lines that are printed
are those of the reported problems, in order, followed by a confirmation if the call was made and did not fail. As long as the facade
does not answer its calls with remarks, this is the case if and only if a stock command has reported nothing but remarks. A blank line
does nothing at all, and any other reports a problem, confirms a command or is forwarded. -/
theorem prints_eq_reports {σ : Type} (F : Facade σ) (registry : Registry) (delegate : Option (List String)) (line : String)
    (s : σ) :
    let run := dispatch F registry delegate line s
    ∃ course : Course, run.Takes F s course ∧
      course.call = (run.report.stock?.bind fun c => c.call? (run.report.command.bind Command.argument?)) ∧
      run.calls.filter Call.isPrint =
        run.report.problems.map Problem.report ++ course.confirmation.toList.map (Call.print run.report.destination) ∧
      (F.RefusesPlainly →
        (course.confirmation.isSome = true ↔
          run.report.stock?.isSome = true ∧ ∀ p ∈ run.report.problems, p.isRemark = true)) ∧
      (Text.isBlank line = true → run.calls = [] ∧ run.forwarded = [] ∧ run.report = {}) ∧
      (Text.isBlank line = false →
        run.report.problems ≠ [] ∨ course.confirmation.isSome = true ∨ run.forwarded ≠ []) := by
  intro run
  obtain ⟨course, takes, ends⟩ := dispatch_takes F registry delegate line s
  refine ⟨course, takes, call_eq_of_takes takes, takes.prints_eq, takes.confirmed_iff, ?_, ?_⟩
  · intro blank
    have nothing : run = { state := s, log := CommandLine.trace line } := by
      simp only [run, dispatch, CommandLine.read_eq_blank_iff.2 blank]
    rw [nothing]
    exact ⟨rfl, rfl, rfl⟩
  · intro written
    by_cases failed : course.failure = none
    · rcases ends written with made | failure | forwarded
      · exact Or.inr (Or.inl (takes.confirmed.2 ⟨made, failed⟩))
      · rw [failed] at failure
        cases failure
      · exact Or.inr (Or.inr forwarded)
    · refine Or.inl ?_
      obtain ⟨p, failure⟩ := Option.ne_none_iff_exists'.1 failed
      show run.report.problems ≠ []
      rw [takes.problems, Course.problems, failure]
      exact List.append_ne_nil_of_right_ne_nil _ (List.cons_ne_nil _ _)

/-- A facade that refuses to move the panel, for some reason, and does all else. -/
def Facade.refusing (p : Problem) : Facade Unit where
  canMail _ := true
  perform call _ :=
    { answer := match call with | .enterFullscreen | .exitFullscreen | .closePanel => some p | _ => none
      state := () }

/-- Two remarks are printed before the call, and the command is confirmed in spite of them. -/
theorem prints_eq_reports_two_remarks :
    let F := Facade.refusing .liveEnvironment
    let run := dispatch F {} none "-TextColor pink -x" ()
    F.RefusesPlainly ∧ run.report.problems = [.secondCommand "x", .unknownColor "pink" .green] ∧
      ∃ confirmation : Line, run.calls.filter Call.isPrint =
        [Problem.report (.secondCommand "x"), Problem.report (.unknownColor "pink" .green), .print .both confirmation] := by
  intro F run
  have plain : F.RefusesPlainly := by
    intro call s p _ failed
    cases call <;> cases failed <;> rfl
  have problems : run.report.problems = [.secondCommand "x", .unknownColor "pink" .green] := by decide +kernel
  have given : run.report.stock? = some .textColor := by rfl
  obtain ⟨course, -, -, prints, confirmed, -, -⟩ := prints_eq_reports F {} none "-TextColor pink -x" ()
  have isConfirmed : course.confirmation.isSome = true := by
    refine (confirmed plain).2 ⟨?_, ?_⟩
    · show run.report.stock?.isSome = true
      rw [given]
      rfl
    · show ∀ p ∈ run.report.problems, p.isRemark = true
      rw [problems]
      decide
  obtain ⟨confirmation, same⟩ := Option.isSome_iff_exists.1 isConfirmed
  refine ⟨plain, problems, confirmation, prints.trans ?_⟩
  show run.report.problems.map Problem.report ++ _ = _
  rw [problems, same]
  rfl

/-- A facade that refuses a move with a remark makes the difference: the report holds nothing but a remark, and yet it was printed
after the call, and the command was not confirmed. -/
theorem unconfirmed_remark :
    let run := dispatch (Facade.refusing (.unknownColor "q" .red)) {} none "-enterfullscreen" ()
    run.report.stock? = some .enterFullscreen ∧ (∀ p ∈ run.report.problems, p.isRemark = true) ∧
      run.calls = [.enterFullscreen, Problem.report (.unknownColor "q" .red)] ∧
      ∀ d l, Call.print d l ∈ run.calls → l.level ≠ .result := by
  intro run
  have calls : run.calls = [.enterFullscreen, Problem.report (.unknownColor "q" .red)] := by rfl
  have problems : run.report.problems = [.unknownColor "q" .red] := by rfl
  refine ⟨by rfl, ?_, calls, ?_⟩
  · rw [problems]
    decide
  · intro d l member
    rw [calls] at member
    simp only [List.mem_cons, List.not_mem_nil, or_false, reduceCtorEq, false_or] at member
    cases member
    decide

end DebugConsole
