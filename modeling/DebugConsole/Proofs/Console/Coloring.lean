import DebugConsole.Proofs.Color
import DebugConsole.Proofs.Command.Typing
import DebugConsole.Proofs.Config.Overrides
import DebugConsole.Proofs.Console.Failure

/-!
# Commands for colors

Five of the stock commands set a color each. They differ in which one it is and in what their confirmations call it (`Stock.slot?`); what
they do is one plan. It is always carried out: a text that is no name in the vocabulary stands for green, which is reported, and the console
never refuses a color (`dispatch_slot`). So all that becomes of a line is known from the word behind the name of its command
(`colors_set`).
-/

namespace DebugConsole

/-- The color that a stock command sets, if it is one for colors, and what its confirmation calls it. -/
def Stock.slot? : Stock → Option (ColorSlot × String)
  | diagTextColor => some (.diagText, "Diagnostic text color")
  | diagBackgroundColor => some (.diagBackground, "Diagnostic background color")
  | backgroundColor => some (.background, "Background color")
  | textColor => some (.text, "Text color")
  | textBoxColor => some (.textField, "Text box color")
  | _ => none

/-- The problem with a text that is not in the vocabulary of colors. -/
def ColorName.substituted (name : String) : List Problem :=
  if (find? name).isSome then [] else [.unknownColor name green]

/-- The line that confirms a color. -/
def ColorName.confirmation (what : String) (used : ColorName) : Line :=
  ⟨.result, what ++ " changed to " ++ used.text⟩

namespace Stock

variable {c : Stock} {slot : ColorSlot} {what : String}

/-- The commands for colors share a plan. -/
theorem plan_of_slot? (h : c.slot? = some (slot, what)) (argument : Option String) :
    c.plan argument = .ok (colorPlan slot what argument) := by
  cases c <;> cases h <;> rfl

/-- They are active whether mail can be sent or not. -/
theorem active_of_slot? (h : c.slot? = some (slot, what)) (mail : Bool) : c ∈ active mail := by
  have free : c.needsMail = false := by
    cases c <;> cases h <;> rfl
  rw [mem_active_iff, free, Bool.not_false, Bool.or_true]

/-- Their names are single words in lower case. -/
theorem name_of_slot? (h : c.slot? = some (slot, what)) : ' ' ∉ c.name.toList ∧ Text.lowercase c.name = c.name := by
  cases c <;> cases h <;> decide +kernel

/-- The plan for a text that the look-up finds a color for. -/
theorem colorPlan_of_find?_eq_some {x : String} {n : ColorName} (found : ColorName.find? x = some n) :
    colorPlan slot what (some x) = ⟨none, .setColor slot n.color, .both, what ++ " changed to " ++ n.text⟩ := by
  simp only [colorPlan, Option.getD_some, found, ColorName.ofText_of_find?_eq_some found]
  rfl

/-- The plan for any other text. -/
theorem colorPlan_of_find?_eq_none {x : String} (found : ColorName.find? x = none) :
    colorPlan slot what (some x) =
      ⟨some (.unknownColor x .green), .setColor slot ColorName.green.color, .both, what ++ " changed to " ++ ColorName.green.text⟩ := by
  simp only [colorPlan, Option.getD_some, found, ColorName.ofText_of_find?_eq_none found]
  rfl

/-- The warning of the plan is about the text, if it is not in the vocabulary. -/
theorem warning_colorPlan (slot : ColorSlot) (what name : String) :
    (colorPlan slot what (some name)).warning.toList = ColorName.substituted name := by
  unfold ColorName.substituted
  cases found : ColorName.find? name with
  | none =>
    rw [colorPlan_of_find?_eq_none found]
    rfl
  | some n =>
    rw [colorPlan_of_find?_eq_some found]
    rfl

end Stock

namespace Console

variable {c : Stock} {slot : ColorSlot} {what : String}

/-- A line with a command for colors and some argument reports what there is to report, sets the color in any case and confirms it. -/
theorem dispatch_slot (h : c.slot? = some (slot, what)) {line name : String} {read : CommandLine}
    (ok : CommandLine.read line = .ok read) (named : c.name = read.command.name) (argument : read.command.argument? = some name)
    (registry : Registry) (delegate : Option (List String)) (console : Console) :
    let run := dispatch facade registry delegate line console
    let used := ColorName.ofText name
    let problems := read.warnings ++ ColorName.substituted name
    run.report.handler = some (.stock c) ∧ run.report.problems = problems ∧
      run.calls = problems.map Problem.report ++
        [.setColor slot used.color, .print .both (ColorName.confirmation what used)] := by
  have made : c.plan read.command.argument? = .ok (Stock.colorPlan slot what (some name)) := by
    rw [argument, Stock.plan_of_slot? h]
  rw [← Stock.warning_colorPlan slot what name]
  exact dispatch_plan ok named (Stock.active_of_slot? h _) made (fun _ => rfl) registry delegate

/-- What becomes of a console when some problems are reported, then a color is set and then a line is printed. -/
theorem after_setColor (problems : List Problem) (slot : ColorSlot) (value : Color) (l : Line) (console : Console) :
    let told := problems.map Problem.line ++ [l]
    facade.after (problems.map Problem.report ++ [.setColor slot value, .print .both l]) console =
      { console with
        settings := console.settings.set (.color slot value)
        lines := (console.lines ++ told).drop (console.lines.length + told.length - console.capacity)
        queue := { console.queue with outputs := console.queue.outputs ++ told } } := by
  intro told
  have all : console.appendAll told = (console.appendAll (problems.map Problem.line)).append l := by
    rw [appendAll, List.foldl_append]
    rfl
  have frame := appendAll_frame (problems.map Problem.line) console
  have settings : facade.after (problems.map Problem.report ++ [.setColor slot value, .print .both l]) console =
      (console.appendAll told).withSettings (console.settings.set (.color slot value)) := by
    rw [Facade.after_append, after_reports, all, frame]
    rfl
  rw [settings, appendAll_eq (List.append_ne_nil_of_right_ne_nil _ (List.cons_ne_nil _ _))]
  rfl

/-- What a text stands for: the color with the name, or green if there is none, which is a problem. -/
theorem substituted_cases (text : String) :
    let name := Text.lowercase text
    let used := ColorName.ofText name
    used.text = name ∧ ColorName.substituted name = [] ∨
      (∀ n : ColorName, n.text ≠ name) ∧ used = .green ∧ ColorName.substituted name = [.unknownColor name .green] := by
  intro name used
  unfold ColorName.substituted
  cases found : ColorName.find? name with
  | some n =>
    have same : used = n := ColorName.ofText_of_find?_eq_some found
    rw [same]
    exact Or.inl ⟨ColorName.find?_lowercase_eq_some_iff.1 found, rfl⟩
  | none =>
    refine Or.inr ⟨fun n spelled => ?_, ColorName.ofText_of_find?_eq_none found, rfl⟩
    rw [ColorName.find?_lowercase_eq_some_iff.2 spelled] at found
    cases found

/-- Commands for colors always run, each on the one color of the panel that is its own. Let a single word that does not start with a dash
be typed behind the name of such a command, whatever follows it. The line is given to the command, on any console and whatever user
commands there are. It sets the color to the one whose name is the word in lower case, or to green if no color has this name, and the latter
is all that is reported apart from a second command. The confirmation names the color that is set. The console has its lines appended under
the cap and queued for the host, and nothing else of it has changed: no other setting, not the panel, and no other queue. The look-up itself
finds a color for any text if and only if the text is its name up to the case of A to Z, the plan uses the color that is found, and it
reports the text and uses green if none is. -/
theorem colors_set (h : c.slot? = some (slot, what)) {text : String} (single : ' ' ∉ text.toList)
    (unmarked : ¬CommandLine.Marked text) (further : List String) (registry : Registry) (delegate : Option (List String))
    (console : Console) :
    let line := CommandLine.typed (CommandLine.mark c.name :: text :: further)
    let name := Text.lowercase text
    let run := dispatch facade registry delegate line console
    (∃ (read : CommandLine) (used : ColorName) (own : List Problem),
      CommandLine.read line = .ok read ∧ (further = [] → read.warnings = []) ∧
      (used.text = name ∧ own = [] ∨
        (∀ n : ColorName, n.text ≠ name) ∧ used = .green ∧ own = [.unknownColor name .green]) ∧
      run.report.handler = some (.stock c) ∧ run.report.problems = read.warnings ++ own ∧
      run.state.settings.toList =
        (console.settings.toList.map fun setting => if setting.name = slot.name then .color slot used.color else setting) ∧
      let told := run.report.problems.map Problem.line ++ [ColorName.confirmation what used]
      run.state =
        { console with
          settings := console.settings.set (.color slot used.color)
          lines := (console.lines ++ told).drop (console.lines.length + told.length - console.capacity)
          queue := { console.queue with outputs := console.queue.outputs ++ told } }) ∧
    ∀ x : String,
      (∀ n : ColorName, ColorName.find? x = some n ↔ Text.asciiFold x = n.text.toList) ∧
      (∀ n : ColorName, ColorName.find? x = some n →
        Stock.colorPlan slot what (some x) = ⟨none, .setColor slot n.color, .both, what ++ " changed to " ++ n.text⟩) ∧
      (ColorName.find? x = none →
        Stock.colorPlan slot what (some x) =
          ⟨some (.unknownColor x .green), .setColor slot ColorName.green.color, .both,
            what ++ " changed to " ++ ColorName.green.text⟩) := by
  intro line name run
  refine ⟨?_, ?_⟩
  · obtain ⟨whole, small⟩ := Stock.name_of_slot? h
    obtain ⟨later, leftOut, read, alone⟩ := CommandLine.read_typed whole single unmarked further
    rw [small] at read
    obtain ⟨handler, problems, calls⟩ := dispatch_slot h read rfl rfl registry delegate console
    have state : run.state = facade.after run.calls console := traced_dispatch facade registry delegate line console
    rw [calls, after_setColor] at state
    refine ⟨_, _, _, read, ?_, substituted_cases text, handler, problems, ?_, ?_⟩
    · rintro rfl
      rw [CommandLine.warnings, alone rfl]
      rfl
    · rw [state]
      exact Settings.toList_set console.settings _
    · rw [problems]
      exact state
  · intro x
    exact ⟨fun n => ColorName.find?_eq_some_iff, fun n => Stock.colorPlan_of_find?_eq_some, Stock.colorPlan_of_find?_eq_none⟩

/-- A letter outside of A to Z may be typed for one of them if this is its lower-case form. A buffer for two lines is left with the report of
a second command and the confirmation. -/
theorem colors_set_kelvin :
    let console : Console := ({ lines := [⟨.info, "ready"⟩] } : Console).recap 2
    let run := dispatch facade {} none "-textboxcolor BLAC\u212a -x" console
    (Stock.slot? .textBoxColor = some (.textField, "Text box color") ∧ ' ' ∉ "BLAC\u212a".toList ∧
        ¬CommandLine.Marked "BLAC\u212a") ∧
      run.report.handler = some (.stock .textBoxColor) ∧ run.report.problems = [.secondCommand "x"] ∧
      run.state.settings = { textField := ColorName.black.color } ∧
      run.state.lines = [Problem.line (.secondCommand "x"), ⟨.result, "Text box color changed to black"⟩] := by
  intro console run
  have single : ' ' ∉ "BLAC\u212a".toList := by decide
  have unmarked : ¬CommandLine.Marked "BLAC\u212a" := by decide
  have name : Text.lowercase "BLAC\u212a" = "black" := by decide +kernel
  have line : CommandLine.typed [CommandLine.mark Stock.textBoxColor.name, "BLAC\u212a", "-x"] = "-textboxcolor BLAC\u212a -x" := by
    decide +kernel
  obtain ⟨⟨read, used, own, ok, -, stands, handler, problems, -, state⟩, -⟩ :=
    colors_set (c := .textBoxColor) rfl single unmarked ["-x"] {} none console
  rw [line] at ok handler problems state
  have known : CommandLine.read "-textboxcolor BLAC\u212a -x" = .ok ⟨⟨"textboxcolor", ["black"]⟩, some ⟨"x", []⟩⟩ := by
    decide +kernel
  cases known.symm.trans ok
  rcases stands with ⟨named, rfl⟩ | ⟨other, -, -⟩
  · cases ColorName.text_inj (m := used) (n := .black) (named.trans name)
    rw [problems] at state
    have after : run.state = _ := state
    refine ⟨⟨rfl, single, unmarked⟩, handler, problems, ?_, ?_⟩ <;> rw [after] <;> rfl
  · exact absurd name.symm (other .black)

end Console

end DebugConsole
