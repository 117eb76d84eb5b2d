import DebugConsole.Proofs.Console.Owing
import DebugConsole.Proofs.Session.Update

/-!
# Lines in batches

Without capture it does not matter how lines are divided among updates (`batching_irrelevant`). An update empties the queues of the
console, so what differs is what has been told already when a line is handled, and nothing that a line does depends on that
(`handleAll_owing`).

So the lines of two updates may as well be handled in one, which tells what the two deliveries amount to for a client
(`CaptureOff.update_submitAll`), and by induction the lines of any number of updates may (`CaptureOff.updates_comeTo`).
-/

namespace DebugConsole

namespace Forwarder

/-- The forwarder as it were if it had not told some commands yet. -/
def owing (commands : List Command) (f : Forwarder) : Forwarder :=
  { f with received := commands ++ f.received }

@[simp]
theorem delegate_owing (commands : List Command) (f : Forwarder) : (f.owing commands).delegate = f.delegate := rfl

theorem receive_owing (commands later : List Command) (f : Forwarder) :
    (f.owing commands).receive later = (f.receive later).owing commands := by
  unfold receive owing
  rw [List.append_assoc]

end Forwarder

namespace Session

/-- The session as it were if it had not told a delivery and some commands yet. -/
def owing (d : Delivery) (commands : List Command) (s : Session) : Session :=
  { s with console := s.console.owing d, forwarder := s.forwarder.owing commands }

theorem handle_owing (d : Delivery) (commands : List Command) (line : String) (s : Session) :
    (s.owing d commands).handle line = (s.handle line).map (owing d commands) := by
  by_cases blank : Text.isBlank line = true
  · simp only [handle, blank, if_true]
    rfl
  · simp only [handle, blank, Bool.false_eq_true, if_false, owing, Forwarder.delegate_owing, Console.append_owing,
      dispatch_map (Console.simulates_owing d), Run.map, Forwarder.receive_owing]
    rfl

/-- How lines are handled does not depend on what was told already. -/
theorem handleAll_owing (d : Delivery) (commands : List Command) (lines : List String) (s : Session) :
    (s.owing d commands).handleAll lines = (s.handleAll lines).map (owing d commands) := by
  induction lines generalizing s with
  | nil => rfl
  | cons line lines ih =>
    rw [handleAll_cons, handleAll_cons, handle_owing]
    simp only [Outcome.map, ih]

/-! ## Lines cut into updates -/

/-- The session after some lines were submitted. -/
def submitAll (lines : List String) (s : Session) : Session :=
  lines.foldl (fun s line => (s.perform (.submit line)).state) s

theorem submitAll_eq (lines : List String) (s : Session) :
    s.submitAll lines = { s with submitted := s.submitted ++ lines } := by
  unfold submitAll
  induction lines generalizing s with
  | nil => simp only [List.foldl_nil, List.append_nil]
  | cons line lines ih =>
    rw [List.foldl_cons, ih]
    simp only [perform, quietly, List.append_assoc, List.singleton_append]

theorem submitAll_append (lines later : List String) (s : Session) :
    s.submitAll (lines ++ later) = (s.submitAll lines).submitAll later := by
  unfold submitAll
  rw [List.foldl_append]

/-- Updates one after the other, each with some more lines submitted before it. -/
def updates : List (List String) → Session → Outcome Session (List Update)
  | [], s => { answer := [], state := s }
  | lines :: cut, s =>
    let first := (s.submitAll lines).update
    let later := updates cut first.state
    { answer := first.answer :: later.answer, state := later.state, log := first.log ++ later.log }

theorem CaptureOff.submitAll {s : Session} (off : s.CaptureOff) (lines : List String) : (s.submitAll lines).CaptureOff := by
  rw [submitAll_eq]
  exact ⟨off.capture, off.heard⟩

/-- Without capture the handled lines lead to what the update leaves, as it were if nothing had been told. -/
theorem CaptureOff.handled_eq {s : Session} (off : s.CaptureOff) :
    s.handled =
      { answer := (), state := s.update.state.owing s.update.answer.delivery s.update.answer.commands
        log := s.update.log } := by
  have state : s.handled.state = s.update.state.owing s.update.answer.delivery s.update.answer.commands := by
    rw [update_eq, off.captured_eq]
    simp only [List.map_nil, List.append_nil, Console.appendAll_nil]
    simp only [owing, Console.owing, Console.drain, Forwarder.owing, Forwarder.drain, Delivery.followedBy_nothing,
      List.append_nil]
    exact (handled_frame s).trans (by rw [off.heard])
  rw [← state, update_eq]

theorem owing_owing (d e : Delivery) (commands later : List Command) (s : Session) :
    (s.owing e later).owing d commands = s.owing (d.followedBy e) (commands ++ later) := by
  simp only [owing, Console.owing, Forwarder.owing, Delivery.followedBy_assoc, List.append_assoc]

@[simp]
theorem emptied_owing (d : Delivery) (commands : List Command) (s : Session) :
    (s.owing d commands).emptied = s.emptied := rfl

/-- What an idle session owes can be told from it, and so can the session. -/
theorem Idle.owing_inj {s t : Session} (hs : s.Idle) (ht : t.Idle) {d e : Delivery} {commands others : List Command}
    (h : s.owing d commands = t.owing e others) : s = t ∧ d = e ∧ commands = others := by
  have told : d.followedBy s.console.queue = e.followedBy t.console.queue := congrArg (fun s => s.console.queue) h
  have received : commands ++ s.forwarder.received = others ++ t.forwarder.received :=
    congrArg (fun s => s.forwarder.received) h
  have emptied : s.emptied = t.emptied := by
    rw [← emptied_owing d commands s, h, emptied_owing]
  rw [hs.queue, ht.queue, Delivery.followedBy_nothing, Delivery.followedBy_nothing] at told
  rw [hs.received, ht.received, List.append_nil, List.append_nil] at received
  rw [hs.emptied_eq, ht.emptied_eq] at emptied
  exact ⟨emptied, told, received⟩

/-- A session that nothing waits in handles just the lines that are submitted to it. -/
theorem Settled.handled_submitAll {s : Session} (h : s.Settled) (lines : List String) :
    (s.submitAll lines).handled = s.handleAll lines := by
  have shown : (s.submitAll lines).announcedShown = s.announcedShown := by
    rw [submitAll_eq]
    rfl
  have submitted : (s.submitAll lines).submitted = lines := by
    rw [submitAll_eq, h.submitted, List.nil_append]
  rw [handled, shown, submitted, h.announcedShown_eq]

/-- Lines submitted after an update may as well be submitted before it: then it tells what the two updates amount to. -/
theorem CaptureOff.update_submitAll {s : Session} (off : s.CaptureOff) (lines : List String) :
    let first := s.update
    let second := (first.state.submitAll lines).update
    let once := (s.submitAll lines).update
    second.state = once.state ∧ first.log ++ second.log = once.log ∧
      first.answer.delivery.followedBy second.answer.delivery = once.answer.delivery ∧
        first.answer.commands ++ second.answer.commands = once.answer.commands := by
  intro first second once
  have later : (first.state.submitAll lines).handled = first.state.handleAll lines :=
    (idle_update s).toSettled.handled_submitAll lines
  have both : (s.submitAll lines).handled =
      { answer := (), state := (s.handled.state.handleAll lines).state
        log := s.handled.log ++ (s.handled.state.handleAll lines).log } := by
    rw [submitAll_eq]
    exact handleAll_append s.submitted lines s.announcedShown
  -- Both sides are idle sessions that owe something now, so what they are and what they owe can be compared.
  rw [off.handled_eq, handleAll_owing, ← later, (off.update.submitAll lines).handled_eq,
    (off.submitAll lines).handled_eq] at both
  simp only [Outcome.map, owing_owing, Outcome.mk.injEq] at both
  obtain ⟨-, same, log⟩ := both
  obtain ⟨state, delivery, commands⟩ := Idle.owing_inj (idle_update _) (idle_update _) same
  exact ⟨state.symm, log.symm, delivery.symm, commands.symm⟩

/-- Some updates come to the same as a single one. -/
structure ComeTo (run : Outcome Session (List Update)) (once : Outcome Session Update) : Prop where
  state : run.state = once.state
  log : run.log = once.log
  delivery : Delivery.total (run.answer.map Update.delivery) = once.answer.delivery
  commands : run.answer.flatMap Update.commands = once.answer.commands

/-- However lines are cut into updates, these come to the same as an update with all of the lines. -/
theorem CaptureOff.updates_comeTo {s : Session} (off : s.CaptureOff) (lines : List String) (cut : List (List String)) :
    ComeTo (s.updates (lines :: cut)) (s.submitAll (lines ++ cut.flatten)).update := by
  induction cut generalizing s lines with
  | nil =>
    rw [List.flatten_nil, List.append_nil]
    refine ⟨rfl, List.append_nil _, Delivery.followedBy_nothing _, List.append_nil _⟩
  | cons next cut ih =>
    have first := off.submitAll lines
    have rest := ih first.update next
    obtain ⟨state, log, delivery, commands⟩ := first.update_submitAll (next ++ cut.flatten)
    rw [List.flatten_cons, submitAll_append]
    refine ⟨rest.state.trans state, ?_, ?_, ?_⟩
    · rw [← log, ← rest.log]
      rfl
    · rw [← delivery, ← rest.delivery]
      rfl
    · rw [← commands, ← rest.commands]
      rfl

/-- Some updates, or none of an idle session, come to the same as an update with all of the lines. -/
theorem CaptureOff.comeTo {s : Session} (off : s.CaptureOff) (cut : List (List String)) (made : cut ≠ [] ∨ s.Idle) :
    ComeTo (s.updates cut) (s.submitAll cut.flatten).update := by
  cases cut with
  | nil =>
    have idle : s.Idle := made.resolve_left (fun some => some rfl)
    have nothing : (s.submitAll []).update = s.update := rfl
    rw [List.flatten_nil, nothing, update_of_idle idle]
    exact ⟨rfl, rfl, rfl, rfl⟩
  | cons lines cut => exact off.updates_comeTo lines cut

/-- Without capture it does not matter how lines are cut into updates: the session afterwards is the same, with all of its parts, and
so are the log, all lifecycle events, commands and mail that are told on the way, and the lines of a client. Some updates cannot be
compared with none at all unless the session is idle, since even one with no lines tells what was queued before. -/
theorem batching_irrelevant (s : Session) (off : s.CaptureOff) (cut other : List (List String))
    (same : cut.flatten = other.flatten) (made : (cut = [] ↔ other = []) ∨ s.Idle) :
    let run := s.updates cut
    let run' := s.updates other
    let told := run.answer.map Update.delivery
    let told' := run'.answer.map Update.delivery
    run.state = run'.state ∧ run.log = run'.log ∧
      told.flatMap Delivery.lifecycle = told'.flatMap Delivery.lifecycle ∧
      run.answer.flatMap Update.commands = run'.answer.flatMap Update.commands ∧
      told.flatMap Delivery.mail = told'.flatMap Delivery.mail ∧
      ∀ lines : List Line,
        told.foldl (fun lines d => d.applyTo lines) lines = told'.foldl (fun lines d => d.applyTo lines) lines := by
  intro run run' told told'
  by_cases none : cut = [] ∧ other = []
  · obtain ⟨rfl, rfl⟩ := none
    exact ⟨rfl, rfl, rfl, rfl, rfl, fun _ => rfl⟩
  · have once : ComeTo run (s.submitAll cut.flatten).update := by
      apply off.comeTo
      rcases made with both | idle
      · exact Or.inl fun h => none ⟨h, both.1 h⟩
      · exact Or.inr idle
    have once' : ComeTo run' (s.submitAll other.flatten).update := by
      apply off.comeTo
      rcases made with both | idle
      · exact Or.inl fun h => none ⟨both.2 h, h⟩
      · exact Or.inr idle
    rw [← same] at once'
    have delivery : Delivery.total told = Delivery.total told' := once.delivery.trans once'.delivery.symm
    refine ⟨once.state.trans once'.state.symm, once.log.trans once'.log.symm, ?_,
      once.commands.trans once'.commands.symm, ?_, ?_⟩
    · rw [← Delivery.lifecycle_total, delivery, Delivery.lifecycle_total]
    · rw [← Delivery.mail_total, delivery, Delivery.mail_total]
    · intro lines
      rw [← Delivery.applyTo_total, delivery, Delivery.applyTo_total]

/-- A line and a reset in two updates or in one: an update that holds both does not tell the line, which a client would forget at once. -/
theorem batching_irrelevant_line_before_reset :
    let s : Session := {}
    let cut := [["hello"], [], ["-ConsoleReset"]]
    let other := [["hello", "-ConsoleReset"]]
    let told := (s.updates cut).answer.map Update.delivery
    let told' := (s.updates other).answer.map Update.delivery
    s.CaptureOff ∧ cut.flatten = other.flatten ∧ (cut = [] ↔ other = []) ∧
      (told.map fun d => d.outputs.length) = [2, 0, 0] ∧ (told'.map fun d => d.outputs.length) = [0] ∧
      (s.updates cut).state = (s.updates other).state ∧
      told.foldl (fun lines d => d.applyTo lines) [] = told'.foldl (fun lines d => d.applyTo lines) [] := by
  intro s cut other told told'
  have off : s.CaptureOff := ⟨rfl, rfl⟩
  have made : cut = [] ↔ other = [] := by decide
  have outputs : (told.map fun d => d.outputs.length) = [2, 0, 0] := by decide +kernel
  have outputs' : (told'.map fun d => d.outputs.length) = [0] := by decide +kernel
  obtain ⟨state, -, -, -, -, client⟩ := batching_irrelevant s off cut other rfl (Or.inl made)
  exact ⟨off, rfl, made, outputs, outputs', state, client []⟩

end Session

end DebugConsole
