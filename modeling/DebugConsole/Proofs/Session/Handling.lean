import DebugConsole.Proofs.Console.Life

/-!
# Handling lines

Submitted lines are handled one after the other. What the later ones leave in the log follows what the earlier ones left
(`handleAll_append`). Of a session they change the console and what the forwarder has received, and nothing else
(`handleAll_frame`).
-/

namespace DebugConsole

@[simp]
theorem Forwarder.receive_nil (f : Forwarder) : f.receive [] = f := by
  simp only [receive, List.append_nil]

theorem Forwarder.receive_receive (f : Forwarder) (commands later : List Command) :
    (f.receive commands).receive later = f.receive (commands ++ later) := by
  simp only [receive, List.append_assoc]

namespace Session

@[simp]
theorem handleAll_nil (s : Session) : s.handleAll [] = { answer := (), state := s } := rfl

theorem handleAll_cons (line : String) (lines : List String) (s : Session) :
    s.handleAll (line :: lines) =
      { answer := (), state := ((s.handle line).state.handleAll lines).state
        log := (s.handle line).log ++ ((s.handle line).state.handleAll lines).log } :=
  Outcome.foldl_log handle lines (s.handle line)

/-- Lines may be handled in two goes. -/
theorem handleAll_append (lines later : List String) (s : Session) :
    s.handleAll (lines ++ later) =
      { answer := (), state := ((s.handleAll lines).state.handleAll later).state
        log := (s.handleAll lines).log ++ ((s.handleAll lines).state.handleAll later).log } := by
  induction lines generalizing s with
  | nil => rfl
  | cons line lines ih =>
    rw [List.cons_append, handleAll_cons, handleAll_cons, ih]
    simp only [List.append_assoc]

/-- What each of some lines keeps is kept by handling them. -/
theorem handleAll_induction {P : Session → Prop} (keep : ∀ s line, P s → P (s.handle line).state) (lines : List String)
    (s : Session) (h : P s) : P (s.handleAll lines).state := by
  induction lines generalizing s with
  | nil => exact h
  | cons line lines ih =>
    rw [handleAll_cons]
    exact ih (s.handle line).state (keep s line h)

/-- A line changes the console and what the forwarder has received. -/
theorem handle_frame (line : String) (s : Session) :
    ∃ console commands, (s.handle line).state = { s with console, forwarder := s.forwarder.receive commands } := by
  by_cases blank : Text.isBlank line = true
  · refine ⟨s.console, [], ?_⟩
    simp only [handle, blank, if_true, Forwarder.receive_nil]
  · simp only [handle, blank, Bool.false_eq_true, if_false]
    exact ⟨_, _, rfl⟩

theorem handleAll_frame (lines : List String) (s : Session) :
    ∃ console commands, (s.handleAll lines).state = { s with console, forwarder := s.forwarder.receive commands } := by
  apply handleAll_induction
    (P := fun t => ∃ console commands, t = { s with console, forwarder := s.forwarder.receive commands })
  · rintro _ line ⟨console, commands, rfl⟩
    obtain ⟨console', commands', same⟩ := handle_frame line
      { s with console, forwarder := s.forwarder.receive commands }
    refine ⟨console', commands ++ commands', ?_⟩
    rw [same, Forwarder.receive_receive]
  · exact ⟨s.console, [], by rw [Forwarder.receive_nil]⟩

/-- A line that is not blank is echoed and then dispatched. -/
theorem console_handle_of_written {line : String} (written : Text.isBlank line = false) (s : Session) :
    (s.handle line).state.console =
      (dispatch Console.facade s.registry s.forwarder.delegate line (s.console.append (Console.echo line))).state := by
  simp only [handle, written, Bool.false_eq_true, if_false]
  rfl

/-- A line does to the console what its operations do. -/
theorem console_handle (line : String) (s : Session) :
    (s.handle line).state.console =
      s.console.performAll ((Console.Step.submit s.registry s.forwarder line).ops s.console) := by
  rw [← Console.state_handle]
  by_cases blank : Text.isBlank line = true
  · simp only [handle, blank, if_true]
  · simp only [handle, blank, Bool.false_eq_true, if_false]

end Session

end DebugConsole
