import DebugConsole.Proofs.Command.Line
import DebugConsole.Proofs.Command.Membership
import DebugConsole.Proofs.Session.Confinement
import DebugConsole.Proofs.Session.Dealings

/-!
# From a name to its command

A user command is introduced by its name, which is registered or listed by the forwarder, and is typed on a line, with its arguments.
Three notions of case meet there: the name is lower-cased by itself when it is introduced and with the whole line when it is typed, and
the two are compared up to the case of A to Z.

A name that was introduced is known (`Session.Knows`), and no act takes this back but that the name is unregistered (`knows_enactAll`).
A session that knows a name and whose forwarder is attached forwards the command of this name (`Session.Forwards`), and it does so too
when other lines have been handled first. What is typed is read as it was meant (`Command.Typeable.read_line`), so a name that was
introduced can be typed (`introduced_name_can_be_typed`).
-/

namespace DebugConsole

/-- The clean report on a command that was forwarded. -/
def Report.forwarded (c : Command) : Report where
  command := some c
  handler := some (.delegate c)

/-- A typed command that is registered or listed, and has no stock command's name, is forwarded to the delegate as it is in lower case.
Nothing else happens, whatever the console. -/
theorem Command.Typeable.dispatch_line {σ : Type} {F : Facade σ} {registry : Registry} {listed : List String} {state : σ}
    {c : Command} (h : c.Typeable) (user : ∀ stock ∈ Stock.active (F.canMail state), stock.name ≠ c.lowered.name)
    (known : ∃ n ∈ registry.names ++ listed, Text.sameName n c.lowered.name = true) :
    let run := dispatch F registry (some listed) c.line state
    run.report = .forwarded c.lowered ∧ run.forwarded = [c.lowered] ∧ run.calls = [] ∧ run.state = state := by
  have meaning : registry.resolve (some listed) (F.canMail state) c.lowered.name = .delegated :=
    Registry.resolve_delegated user known
  have opened := Run.opened_eq F c.line ⟨c.lowered, none⟩ state
  rw [dispatch_eq F registry (some listed) h.read_line state]
  -- Nothing is left out of the line, so nothing has been reported when the name is looked up.
  generalize Run.opened F c.line ⟨c.lowered, none⟩ state = run at opened ⊢
  obtain ⟨calls, kept, forwarded, problems, -⟩ := opened
  have unchanged : run.state = state := kept
  rw [← unchanged] at meaning
  simp only [Run.give, meaning]
  exact ⟨congrArg (Report.mk _ _) problems, congrArg (· ++ [c.lowered]) forwarded, calls, unchanged⟩

namespace Session

variable {s : Session} {name : String}

/-! ## Names that are known -/

/-- A name is registered or listed by the forwarder. -/
def Knows (name : String) (s : Session) : Prop :=
  s.registry.contains (Text.lowercase name) = true ∨ Text.lowercase name ∈ s.forwarder.names

/-- The name under which the dispatcher finds the command. -/
theorem Knows.found (h : s.Knows name) :
    ∃ n ∈ s.registry.names ++ s.forwarder.names, Text.sameName n (Text.lowercase name) = true := by
  rcases h with registered | listed
  · obtain ⟨n, member, same⟩ := Registry.contains_iff.1 registered
    exact ⟨n, List.mem_append_left _ member, same⟩
  · exact ⟨_, List.mem_append_right _ listed, Text.sameName_refl _⟩

/-- What an act does to the registry, if anything. -/
def Act.edit? (s : Session) : Act → Option Registry.Edit
  | .event (.register name) => some (.register name)
  | .event (.unregister name) => some (.unregister name)
  | .event (.load path) => (Config.load s.directory path).toOption.map .apply
  | _ => none

/-- An act does not unregister a name. -/
def Act.Spares (name : String) (act : Act) : Prop :=
  ∀ other, act = .event (.unregister other) → Text.sameName other (Text.lowercase name) = false

/-- The registry is changed by edits alone, and what the forwarder lists it lists for good. -/
theorem enact_frame (act : Act) (s : Session) :
    (s.enact act).registry = (act.edit? s).elim s.registry s.registry.edit ∧
      s.forwarder.names ⊆ (s.enact act).forwarder.names := by
  cases act with
  | handle line =>
    obtain ⟨console, commands, frame⟩ := handle_frame line s
    rw [enact, listen, hear_eq, frame]
    exact ⟨rfl, List.Subset.refl _⟩
  | event event =>
    cases event with
    | update =>
      obtain ⟨console, commands, frame⟩ := handleAll_frame s.submitted s.announcedShown
      simp only [enact, perform, update_eq, handled, frame]
      exact ⟨rfl, List.Subset.refl _⟩
    | list name =>
      simp only [enact, perform, quietly, Forwarder.list]
      split
      · exact ⟨rfl, List.Subset.refl _⟩
      · exact ⟨rfl, List.subset_append_left _ _⟩
    | load path =>
      simp only [enact, perform, Act.edit?]
      cases Config.load s.directory path with
      | error failure => exact ⟨rfl, List.Subset.refl _⟩
      | ok config =>
        simp only [listen, hear_eq]
        exact ⟨rfl, List.Subset.refl _⟩
    | hostLog severity target message =>
      simp only [enact, perform, quietly, hear_eq]
      exact ⟨rfl, List.Subset.refl _⟩
    | operate op | process line delegate | register name | unregister name =>
      simp only [enact, perform, listen, hear_eq]
      exact ⟨rfl, List.Subset.refl _⟩
    | _ => exact ⟨rfl, List.Subset.refl _⟩

/-- The only act that unregisters a name is the one for that. -/
theorem Act.eq_unregister {act : Act} {other : String} (h : act.edit? s = some (.unregister other)) :
    act = .event (.unregister other) := by
  cases act with
  | handle line => cases h
  | event event =>
    cases event with
    | unregister name =>
      cases h
      rfl
    | load path =>
      obtain ⟨config, -, made⟩ := Option.map_eq_some_iff.1 h
      cases made
    | _ => cases h

/-- A name that is known stays known when it is not unregistered. -/
theorem Knows.enact (h : s.Knows name) {act : Act} (spared : act.Spares name) : (s.enact act).Knows name := by
  obtain ⟨registry, names⟩ := enact_frame act s
  rcases h with registered | listed
  · left
    rw [registry]
    cases edited : act.edit? s with
    | none => exact registered
    | some e =>
      refine Registry.contains_edit_of_contains registered ?_
      rintro other rfl
      exact spared other (Act.eq_unregister edited)
  · exact Or.inr (names listed)

theorem knows_enactAll (h : s.Knows name) {acts : List Act} (spared : ∀ act ∈ acts, act.Spares name) :
    (s.enactAll acts).Knows name := by
  induction acts generalizing s with
  | nil => exact h
  | cons act acts ih =>
    obtain ⟨first, rest⟩ := List.forall_mem_cons.1 spared
    exact ih (h.enact first) rest

theorem listed_enactAll {n : String} (h : n ∈ s.forwarder.names) (acts : List Act) :
    n ∈ (s.enactAll acts).forwarder.names := by
  induction acts generalizing s with
  | nil => exact h
  | cons act acts ih => exact ih ((enact_frame act s).2 h)

/-- A name that is registered is known, whether it was new or not. -/
theorem knows_register (name : String) (s : Session) : (s.enact (.event (.register name))).Knows name := by
  left
  rw [(enact_frame _ s).1]
  show (s.registry.register name).state.contains (Text.lowercase name) = true
  rw [Registry.contains_register, Text.sameName_refl, Bool.or_true]

theorem listed_list (name : String) (s : Session) :
    Text.lowercase name ∈ (s.enact (.event (.list name))).forwarder.names := by
  simp only [enact, perform, quietly, Forwarder.list]
  split
  · assumption
  · exact List.mem_append_right _ (List.mem_singleton.2 rfl)

/-! ## Commands that are forwarded -/

/-- A session forwards the command of a name: the forwarder is attached, the name is known, and no stock command has it. -/
structure Forwards (s : Session) (name : String) : Prop where
  attached : s.forwarder.attached = true
  known : s.Knows name
  user : ∀ stock ∈ Stock.active s.console.canMail, stock.name ≠ Text.lowercase name

/-- Showing entries has nothing to do with commands. -/
theorem Forwards.announcedShown (h : s.Forwards name) : s.announcedShown.Forwards name := by
  refine ⟨h.attached, h.known, ?_⟩
  rw [Session.announcedShown, Console.appendAll_frame]
  exact h.user

/-- Lines leave it as it is whose commands are forwarded. -/
theorem Forwards.handleAll (h : s.Forwards name) (lines : List String) : (s.handleAll lines).state.Forwards name := by
  have mail := (confined_handleAll lines s).canMail
  obtain ⟨console, commands, frame⟩ := handleAll_frame lines s
  refine ⟨?_, ?_, ?_⟩
  · rw [frame]
    exact h.attached
  · rw [frame]
    exact h.known
  · rw [mail]
    exact h.user

variable {c : Command}

/-- The typed command of a name that a session forwards is given to the forwarder in lower case, with a clean report. -/
theorem Forwards.runOf_line (h : s.Forwards name) (typed : c.Typeable) (spelled : Text.lowercase c.name = Text.lowercase name) :
    (s.runOf c.line).report = .forwarded c.lowered ∧ (s.runOf c.line).forwarded = [c.lowered] ∧
      (s.runOf c.line).calls = [] ∧ (s.runOf c.line).state = s.console.append (Console.echo c.line) := by
  have user : ∀ stock ∈ Stock.active s.console.canMail, stock.name ≠ c.lowered.name := by
    rw [Command.lowered, spelled]
    exact h.user
  have known : ∃ n ∈ s.registry.names ++ s.forwarder.names, Text.sameName n c.lowered.name = true := by
    rw [Command.lowered, spelled]
    exact h.known.found
  have delegate : s.forwarder.delegate = some s.forwarder.names := if_pos h.attached
  rw [runOf, delegate]
  exact typed.dispatch_line user known

/-- When its line is handled, the command is reported as forwarded and held for the host, and no mail is asked for. -/
theorem Forwards.handle_line (h : s.Forwards name) (typed : c.Typeable) (spelled : Text.lowercase c.name = Text.lowercase name) :
    s.handlingTraffic c.line = { reports := [.forwarded c.lowered] } ∧
      (s.handle c.line).state =
        { s with console := s.console.append (Console.echo c.line), forwarder := s.forwarder.receive [c.lowered] } := by
  obtain ⟨report, forwarded, calls, state⟩ := h.runOf_line typed spelled
  have requests : (s.runOf c.line).requests (s.console.append (Console.echo c.line)) = [] := by
    rw [Run.requests, Run.mutations, calls]
    rfl
  refine ⟨?_, ?_⟩
  · rw [handlingTraffic, c.isBlank_line, if_neg Bool.false_ne_true, report, requests]
  · have handled : (s.handle c.line).state =
        { s with console := (s.runOf c.line).state, forwarder := s.forwarder.receive (s.runOf c.line).forwarded } := by
      rw [handle, c.isBlank_line, if_neg Bool.false_ne_true]
      rfl
    rw [handled, state, forwarded]

/-- Submitted behind other lines, the command is reported and told behind theirs in the next update. -/
theorem Forwards.update_line (h : s.Forwards name) (typed : c.Typeable) (spelled : Text.lowercase c.name = Text.lowercase name) :
    let before := (Act.event .update).traffic s
    let after := (Act.event .update).traffic (s.enact (.event (.submit c.line)))
    after.reports = before.reports ++ [.forwarded c.lowered] ∧ after.commands = before.commands ++ [c.lowered] := by
  intro before after
  have still := h.announcedShown.handleAll s.submitted
  obtain ⟨traffic, -⟩ := still.handle_line typed spelled
  have last : handlingAllTraffic [c.line] (s.announcedShown.handleAll s.submitted).state =
      { reports := [.forwarded c.lowered] } := by
    rw [handlingAllTraffic, traffic]
    rfl
  have reports : after.reports = before.reports ++ [.forwarded c.lowered] := by
    have lines : handlingAllTraffic (s.submitted ++ [c.line]) s.announcedShown =
        (handlingAllTraffic s.submitted s.announcedShown).followedBy { reports := [.forwarded c.lowered] } := by
      rw [handlingAllTraffic_append, last]
    show (handlingAllTraffic (s.submitted ++ [c.line]) s.announcedShown).reports ++ [] =
      ((handlingAllTraffic s.submitted s.announcedShown).reports ++ []) ++ _
    rw [lines, List.append_nil, List.append_nil]
    rfl
  refine ⟨reports, ?_⟩
  have held : (s.enact (.event (.submit c.line))).forwarder.received = s.forwarder.received := rfl
  rw [commands_update, commands_update, held, Traffic.delegated, reports, List.filterMap_append, List.append_assoc]
  rfl

/-! ## Names that were introduced -/

/-- A name is introduced by an event and not taken back by the acts that follow it. A name that the forwarder lists cannot be taken
back. -/
inductive Introduced (name : String) (later : List Act) : Event → Prop
  | registered (spared : ∀ act ∈ later, act.Spares name) : Introduced name later (.register name)
  | listed : Introduced name later (.list name)

theorem Introduced.knows {introduction : Event} {later : List Act} (h : Introduced name later introduction) (s : Session) :
    ((s.enact (.event introduction)).enactAll later).Knows name := by
  cases h with
  | registered spared => exact knows_enactAll (knows_register name s) spared
  | listed => exact Or.inr (listed_enactAll (listed_list name s) later)

/-- A name that was introduced can be typed. Let a name be registered or listed in any session, and anything happen then but that it is
unregistered. A line that has the name behind a dash, in any spelling with the same lower-case form, and any words behind it that are
not marked is the command of this name as long as no active stock command has the form for its name. It is forwarded to the delegate
once, with the form for its name and its words in lower case for its arguments, and the report on it is clean. Nothing else happens,
whatever console the line is dispatched to. A session with its forwarder attached echoes the line and holds the command for the host;
and if the line is submitted, the next update reports it and tells its command behind all others, whatever lines come before it. -/
theorem introduced_name_can_be_typed (s : Session) (name : String) (introduction : Event) (later : List Act) (c : Command)
    (introduced : Introduced name later introduction) (typed : c.Typeable)
    (spelled : Text.lowercase c.name = Text.lowercase name) :
    let now := (s.enact (.event introduction)).enactAll later
    let told : Command := ⟨Text.lowercase name, c.arguments.map Text.lowercase⟩
    let report : Report := { command := some told, handler := some (.delegate told), problems := [] }
    (∀ (σ : Type) (F : Facade σ) (state : σ),
      (∀ stock ∈ Stock.active (F.canMail state), stock.name ≠ Text.lowercase name) →
        let run := dispatch F now.registry (some now.forwarder.names) c.line state
        run.report = report ∧ run.forwarded = [told] ∧ run.calls = [] ∧ run.state = state) ∧
    (now.forwarder.attached = true →
      (∀ stock ∈ Stock.active now.console.canMail, stock.name ≠ Text.lowercase name) →
        (now.handlingTraffic c.line = { reports := [report] } ∧
          (now.handle c.line).state =
            { now with console := now.console.append (Console.echo c.line), forwarder := now.forwarder.receive [told] }) ∧
        let before := (Act.event .update).traffic now
        let after := (Act.event .update).traffic (now.enact (.event (.submit c.line)))
        after.reports = before.reports ++ [report] ∧ after.commands = before.commands ++ [told]) := by
  intro now told report
  have known : now.Knows name := introduced.knows s
  have form : c.lowered = told := congrArg (Command.mk · _) spelled
  refine ⟨?_, ?_⟩
  · intro σ F state user
    rw [← spelled] at user
    have found : ∃ n ∈ now.registry.names ++ now.forwarder.names, Text.sameName n c.lowered.name = true := by
      rw [form]
      exact known.found
    have forwarded := typed.dispatch_line user found
    rwa [form] at forwarded
  · intro attached user
    have forwards : now.Forwards name := ⟨attached, known, user⟩
    have handled := forwards.handle_line typed spelled
    have updated := forwards.update_line typed spelled
    rw [form] at handled updated
    exact ⟨handled, updated⟩

/-- A name is registered with the sign for Kelvin and typed with a letter. The sigma that ends it is the small letter for the end of a
word, as it is when the name stands alone. -/
theorem introduced_name_can_be_typed_kelvin :
    let c : Command := ⟨"K\u03a3", ["Red", "", "\u03a3"]⟩
    let later : List Act := [.event (.unregister "red"), .event .detach, .event .attach, .event (.submit "-red")]
    let now := (enact (.event (.register "\u212a\u03a3")) {}).enactAll later
    c.line = "-K\u03a3 Red  \u03a3" ∧
      ((Act.event .update).traffic (now.enact (.event (.submit c.line)))).commands =
        [⟨"k\u03c2", ["red", "", "\u03c3"]⟩] := by
  intro c later now
  have spared : ∀ act ∈ later, act.Spares "\u212a\u03a3" := by
    intro act member other same
    subst same
    have red : other = "red" := by simpa [later] using member
    subst red
    decide +kernel
  have typed : c.Typeable := ⟨by decide +kernel, by decide +kernel, by decide +kernel⟩
  obtain ⟨-, taken⟩ := introduced_name_can_be_typed {} "\u212a\u03a3" _ later c (.registered spared) typed (by decide +kernel)
  obtain ⟨-, -, commands⟩ := taken (by decide +kernel) (by decide +kernel)
  exact ⟨by decide +kernel, commands.trans (by decide +kernel)⟩

end Session

end DebugConsole
