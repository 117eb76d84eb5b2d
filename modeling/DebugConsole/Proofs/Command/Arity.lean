import DebugConsole.Proofs.Command.Resolution
import DebugConsole.Proofs.Command.Typing

/-!
# What stock commands depend on

A stock command reads as many arguments as its arity says, and a missing one is as good as an empty one. Nothing else that is typed on its
line makes a difference to it, apart from the name of a second command, which is reported.

This is a statement about two runs. They need not agree in the log of the host, where the lines are noted as they were read, nor in the
command that they report; `Run.SameEffect` says that they agree in all else. They do before the command is carried out, every step keeps it
(`SameEffect.carryOut`), and the plan of the command is one plan for both lines (`Stock.plan_congr`).
-/

namespace DebugConsole

/-- Two command lines that are the same to a stock command: both are for it, they leave out the same second command, if any, and they agree
in the arguments that it reads, where a missing one counts as empty. -/
structure Stock.Same (c : Stock) (a b : CommandLine) : Prop where
  name : a.command.name = c.name
  other : b.command.name = c.name
  leftOut : a.leftOut.map LeftOut.name = b.leftOut.map LeftOut.name
  arguments : ∀ i < c.arity, a.command.arguments.getD i "" = b.command.arguments.getD i ""

/-- What a stock command is going to do depends on the arguments that it reads. -/
theorem Stock.plan_congr {c : Stock} {xs ys : List String} (h : ∀ i < c.arity, xs.getD i "" = ys.getD i "") :
    c.plan xs.head? = c.plan ys.head? := by
  have first : 0 < c.arity → xs.head?.getD "" = ys.head?.getD "" := by
    intro reads
    have same := h 0 reads
    rwa [List.getD_eq_getElem?_getD, List.getD_eq_getElem?_getD, ← List.head?_eq_getElem?, ← List.head?_eq_getElem?] at same
  cases c with
  | diagTextColor | diagBackgroundColor | backgroundColor | textColor | textBoxColor | sendEmail =>
    simp only [plan, colorPlan, first Nat.one_pos]
  | enterFullscreen | exitFullscreen | closeConsole | enableDiag | disableDiag | consoleReset => rfl

/-- Command lines that leave out the same second command give the same warning. -/
theorem CommandLine.warnings_congr {a b : CommandLine} (h : a.leftOut.map LeftOut.name = b.leftOut.map LeftOut.name) :
    b.warnings = a.warnings := by
  have warnings : ∀ l : CommandLine, l.warnings = (l.leftOut.map LeftOut.name).toList.map Problem.secondCommand := by
    intro l
    unfold CommandLine.warnings
    cases l.leftOut <;> rfl
  rw [warnings, warnings, h]

/-! ## Two runs -/

namespace Run

variable {σ : Type} {F : Facade σ} {run other : Run σ}

/-- Two runs that have come to the same: the same calls and the state after them, the same forwarded commands, the same problems, and the
same one who the command was given to. -/
structure SameEffect (run other : Run σ) : Prop where
  calls : other.calls = run.calls
  state : other.state = run.state
  forwarded : other.forwarded = run.forwarded
  problems : other.report.problems = run.report.problems
  handler : other.report.handler = run.report.handler

theorem SameEffect.symm (h : run.SameEffect other) : other.SameEffect run :=
  ⟨h.calls.symm, h.state.symm, h.forwarded.symm, h.problems.symm, h.handler.symm⟩

/-- A call is answered in both runs alike. -/
theorem SameEffect.call (h : run.SameEffect other) (c : Call) :
    (other.call F c).1 = (run.call F c).1 ∧ (run.call F c).2.SameEffect (other.call F c).2 := by
  unfold Run.call
  rw [h.state]
  exact ⟨rfl, congrArg (· ++ [c]) h.calls, rfl, h.forwarded, h.problems, h.handler⟩

theorem SameEffect.print (h : run.SameEffect other) (d : Destination) (l : Line) :
    (run.print F d l).SameEffect (other.print F d l) :=
  (h.call _).2

theorem SameEffect.fail (h : run.SameEffect other) (p : Problem) : (run.fail F p).SameEffect (other.fail F p) := by
  obtain ⟨calls, state, forwarded, problems, handler⟩ := h.print (F := F) .both p.line
  exact ⟨calls, state, forwarded, congrArg (· ++ [p]) problems, handler⟩

theorem SameEffect.warn (h : run.SameEffect other) (warning : Option Problem) :
    (run.warn F warning).SameEffect (other.warn F warning) := by
  cases warning with
  | none => exact h
  | some p => exact h.fail p

theorem SameEffect.follow (h : run.SameEffect other) (plan : Stock.Plan) : (run.follow F plan).SameEffect (other.follow F plan) := by
  obtain ⟨answer, called⟩ := (h.warn (F := F) plan.warning).call (F := F) plan.call
  rw [follow_eq, follow_eq, answer]
  split
  · exact called.print _ _
  · exact called.fail _

/-- Carrying out a stock command comes to the same in both runs. -/
theorem SameEffect.carryOut (h : run.SameEffect other) (c : Stock) (argument : Option String) :
    (run.carryOut F c argument).SameEffect (other.carryOut F c argument) := by
  unfold Run.carryOut
  split
  · exact h.follow _
  · exact h.fail _

/-- Lines that leave out the same second command have come to the same when their commands are looked up. -/
theorem sameEffect_opened (F : Facade σ) (line line' : String) {a b : CommandLine} (h : b.warnings = a.warnings) (s : σ) :
    (opened F line a s).SameEffect (opened F line' b s) := by
  obtain ⟨calls, state, forwarded, problems, handler⟩ := opened_eq F line a s
  obtain ⟨calls', state', forwarded', problems', handler'⟩ := opened_eq F line' b s
  rw [h] at calls' state' problems'
  exact ⟨calls'.trans calls.symm, state'.trans state.symm, forwarded'.trans forwarded.symm, problems'.trans problems.symm,
    handler'.trans handler.symm⟩

end Run

/-! ## Lines for stock commands -/

section

variable {σ : Type} {F : Facade σ} {registry registry' : Registry} {delegate delegate' : Option (List String)}
  {line line' : String} {s : σ} {c : Stock}

/-- Lines that are the same to an active stock command come to the same, whatever user commands there are. -/
theorem sameEffect_dispatch {a b : CommandLine} (h : CommandLine.read line = .ok a) (h' : CommandLine.read line' = .ok b)
    (same : c.Same a b) (active : c ∈ Stock.active (F.canMail (F.after (a.warnings.map Problem.report) s))) :
    (dispatch F registry delegate line s).SameEffect (dispatch F registry' delegate' line' s) := by
  have warned : b.warnings = a.warnings := CommandLine.warnings_congr same.leftOut
  have opened := Run.sameEffect_opened F line line' warned s
  have given : ((Run.opened F line a s).givenTo (.stock c)).SameEffect ((Run.opened F line' b s).givenTo (.stock c)) :=
    ⟨opened.calls, opened.state, opened.forwarded, opened.problems, rfl⟩
  have carriedOut := given.carryOut (F := F) c a.command.argument?
  have plan : c.plan b.command.argument? = c.plan a.command.argument? := (Stock.plan_congr same.arguments).symm
  have other : ((Run.opened F line' b s).givenTo (.stock c)).carryOut F c b.command.argument? =
      ((Run.opened F line' b s).givenTo (.stock c)).carryOut F c a.command.argument? := by
    unfold Run.carryOut
    rw [plan]
  rw [dispatch_stock h same.name.symm active, dispatch_stock h' same.other.symm (by rwa [warned]), other]
  exact ⟨carriedOut.calls, carriedOut.state, carriedOut.forwarded, carriedOut.problems, carriedOut.handler⟩

/-- More words behind a line change nothing for a stock command that has all of its arguments. Empty words change nothing either way: they
are as good as none. -/
theorem Stock.Same.goesOn {read longer : CommandLine} {more : List String} (named : read.command.name = c.name)
    (goesOn : read.GoesOn more longer) (idle : c.arity ≤ read.command.arguments.length ∨ ∀ word ∈ more, word = "") :
    c.Same read longer := by
  refine ⟨named, goesOn.name.trans named, goesOn.leftOut.symm, fun i reads => ?_⟩
  rw [goesOn.arguments, List.getD_eq_getElem?_getD, List.getD_eq_getElem?_getD]
  rcases Nat.lt_or_ge i read.command.arguments.length with there | missing
  · rw [List.getElem?_append_left there]
  · -- The argument is missing in the shorter line, so the words behind it are empty.
    have empty : ∀ word ∈ more, word = "" := idle.resolve_left (by omega)
    rw [List.getElem?_eq_none missing, List.getElem?_append_right missing, Option.getD_none]
    cases found : (if read.leftOut.isNone then more else [])[i - read.command.arguments.length]? with
    | none => rfl
    | some word =>
      have member := List.mem_of_getElem? found
      split at member
      · exact (empty word member).symm
      · cases member

/-- Without the spaces at its end, a line is given to a stock command as it was with them. -/
theorem stock?_of_spaces {n : Nat} (given : (dispatch F registry delegate (line ++ CommandLine.spaces n) s).report.stock? = some c) :
    (dispatch F registry' delegate' line s).report.stock? = some c := by
  obtain ⟨longer, h, named, active⟩ := stock?_dispatch_iff.1 given
  obtain ⟨read, h'⟩ := CommandLine.exists_read_of_spaces h
  obtain ⟨again, same, goesOn⟩ := CommandLine.read_append_spaces h' n
  cases h.symm.trans same
  rw [CommandLine.warnings_congr goesOn.leftOut.symm] at active
  exact stock?_dispatch_iff.2 ⟨read, h', named.trans goesOn.name, active⟩

/-- Spaces at the end of a line change nothing for a stock command. -/
theorem sameEffect_spaces (given : (dispatch F registry delegate line s).report.stock? = some c) (n : Nat) :
    (dispatch F registry delegate line s).SameEffect (dispatch F registry' delegate' (line ++ CommandLine.spaces n) s) := by
  obtain ⟨read, h, named, active⟩ := stock?_dispatch_iff.1 given
  obtain ⟨longer, h', goesOn⟩ := CommandLine.read_append_spaces h n
  exact sameEffect_dispatch h h' (.goesOn named.symm goesOn (Or.inr fun word member => List.eq_of_mem_replicate member)) active

end

/-- A stock command depends on nothing but its first arguments, as many as its arity says, where a missing one counts as empty. Let two
lines be read as commands for the same active stock command, with the same second command left out, if any, and with these arguments in
common. Then they come to the same on any console, whatever user commands are registered or listed: the command is given to the stock
command, the calls are the same in the same order, printed lines included, and so are the state after them and the problems that are
reported. So for a stock command
- all lines are the same that leave the same out, if its arity is zero;
- further arguments behind those that it reads make no difference;
- it makes no difference whether arguments stand before or behind the name;
- it makes no difference whether there are spaces at the end of the line or not, however many. -/
theorem only_arity_matters {σ : Type} (F : Facade σ) (registry registry' : Registry) (delegate delegate' : Option (List String))
    (s : σ) (c : Stock) :
    let run (line : String) : Run σ := dispatch F registry delegate line s
    let rerun (line : String) : Run σ := dispatch F registry' delegate' line s
    (∀ line line' a b, CommandLine.read line = .ok a → CommandLine.read line' = .ok b → c.Same a b →
      c ∈ Stock.active (F.canMail (F.after (a.warnings.map Problem.report) s)) →
        (run line).report.stock? = some c ∧ (run line).SameEffect (rerun line')) ∧
    ∀ line, (run line).report.stock? = some c →
      (∀ line' a b, CommandLine.read line = .ok a → CommandLine.read line' = .ok b → c.arity = 0 →
        b.command.name = a.command.name → b.leftOut.map LeftOut.name = a.leftOut.map LeftOut.name →
          (run line).SameEffect (rerun line')) ∧
      (∀ a more, CommandLine.read line = .ok a → c.arity ≤ a.command.arguments.length → CommandLine.Unmarked more →
        (run line).SameEffect (rerun (line ++ " " ++ more))) ∧
      (∀ name before after, ' ' ∉ name.toList → (∀ text ∈ before, CommandLine.Unmarked text) →
        line = CommandLine.typed (CommandLine.mark name :: (before ++ after)) →
          (run line).SameEffect (rerun (CommandLine.typed (before ++ CommandLine.mark name :: after)))) ∧
      (∀ n, (run line).SameEffect (rerun (line ++ CommandLine.spaces n))) ∧
      ∀ shorter n, line = shorter ++ CommandLine.spaces n → (run line).SameEffect (rerun shorter) := by
  intro run rerun
  refine ⟨?_, ?_⟩
  · intro line line' a b h h' same active
    exact ⟨stock?_dispatch_iff.2 ⟨a, h, same.name.symm, active⟩, sameEffect_dispatch h h' same active⟩
  · intro line given
    obtain ⟨read, h, named, active⟩ := stock?_dispatch_iff.1 given
    refine ⟨?_, ?_, ?_, sameEffect_spaces given, ?_⟩
    · intro line' a b ha hb none name leftOut
      cases h.symm.trans ha
      refine sameEffect_dispatch h hb ⟨named.symm, name.trans named.symm, leftOut.symm, fun i reads => ?_⟩ active
      omega
    · intro a more ha enough unmarked
      cases h.symm.trans ha
      obtain ⟨longer, h', goesOn⟩ := CommandLine.read_append h unmarked
      exact sameEffect_dispatch h h' (.goesOn named.symm goesOn (Or.inl enough)) active
    · rintro name before after whole unmarked rfl
      have same := CommandLine.read_typed_moved whole unmarked after
      exact sameEffect_dispatch h (same.trans h) ⟨named.symm, named.symm, rfl, fun _ _ => rfl⟩ active
    · rintro shorter n rfl
      exact (sameEffect_spaces (stock?_of_spaces given) n).symm

/-- An address that is missing is as good as an empty one, and neither a second address behind it nor the end of the line makes a
difference. A color may stand before the name, have others behind it and end in spaces. -/
theorem only_arity_matters_sendemail :
    let s : Console := { canMail := true }
    let run (line : String) : Run Console := dispatch Console.facade {} none line s
    let rerun (line : String) : Run Console := dispatch Console.facade ⟨["textcolor"]⟩ (some ["SENDEMAIL"]) line s
    ((run "-SendEmail -x").report.problems = [.secondCommand "x", .missingArgument "sendemail"] ∧
      (run "-SendEmail -x").SameEffect (rerun " -sendemail  Dev -X y")) ∧
    (run "-CloseConsole").SameEffect (rerun "now -closeconsole or later") ∧
    (run "-textcolor Red").SameEffect (rerun "-textcolor Red Blue") ∧
    (run "-textcolor Red").SameEffect (rerun "Red -textcolor") ∧
    (run "-textcolor Red").SameEffect (rerun "-textcolor Red  ") ∧
    (run "-textcolor Red  ").SameEffect (rerun "-textcolor Red") := by
  intro s run rerun
  have matters (c : Stock) := only_arity_matters Console.facade {} ⟨["textcolor"]⟩ none (some ["SENDEMAIL"]) s c
  have mail : CommandLine.read "-SendEmail -x" = .ok ⟨⟨"sendemail", []⟩, some ⟨"x", []⟩⟩ := by decide +kernel
  have mail' : CommandLine.read " -sendemail  Dev -X y" = .ok ⟨⟨"sendemail", ["", "", "dev"]⟩, some ⟨"x", ["y"]⟩⟩ := by
    decide +kernel
  have close : CommandLine.read "-CloseConsole" = .ok ⟨⟨"closeconsole", []⟩, none⟩ := by decide +kernel
  have close' : CommandLine.read "now -closeconsole or later" = .ok ⟨⟨"closeconsole", ["now", "or", "later"]⟩, none⟩ := by
    decide +kernel
  have red : CommandLine.read "-textcolor Red" = .ok ⟨⟨"textcolor", ["red"]⟩, none⟩ := by decide +kernel
  obtain ⟨-, missing⟩ := (matters .sendEmail).1 _ _ _ _ mail mail'
    ⟨rfl, rfl, rfl, by decide⟩ (by decide)
  obtain ⟨whatever, -⟩ := (matters .closeConsole).2 "-CloseConsole" (by decide +kernel)
  obtain ⟨-, further, moved, spaces, -⟩ := (matters .textColor).2 "-textcolor Red" (by decide +kernel)
  obtain ⟨-, -, -, -, stripped⟩ := (matters .textColor).2 "-textcolor Red  " (by decide +kernel)
  exact ⟨⟨by decide +kernel, missing⟩, whatever _ _ _ close close' rfl rfl rfl,
    further _ "Blue" red (by decide) (by decide +kernel),
    moved "textcolor" ["Red"] [] (by decide) (by decide +kernel) (by decide +kernel), spaces 2,
    stripped "-textcolor Red" 2 (by decide +kernel)⟩

end DebugConsole
