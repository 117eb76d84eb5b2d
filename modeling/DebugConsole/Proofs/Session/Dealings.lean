import DebugConsole.Proofs.Console.Mail
import DebugConsole.Proofs.Session.Capture

/-!
# Commands and mail on their way to the host

User commands and mail reach the host in two steps: they are queued when a line is handled or an operation is carried out, and told in
the next update. The commands are held by the forwarder and the mail by the console, and the two are drained apart from each other. What
may happen in between is anything: the console is cleared, reset or set up again, the forwarder is detached.

Whatever it is, what was held before and what came in is what has been passed on and what is held still (`Conserved`), and this composes.
So it holds of every run of a session (`accounts_enactAll`), from which `passed_on_once` follows.
-/

namespace DebugConsole

/-- What was held at first and what came in since, in order, is what was passed on and what is left. -/
def Conserved {α : Type} (held cameIn passedOn left : List α) : Prop :=
  passedOn ++ left = held ++ cameIn

namespace Conserved

variable {α : Type} {held cameIn passedOn left : List α}

theorem refl (held : List α) : Conserved held [] [] held :=
  (List.append_nil held).symm

/-- What comes in and is not passed on is left behind what was held. -/
theorem of_eq_append (h : left = held ++ cameIn) : Conserved held cameIn [] left := h

/-- As long as nothing is passed on, what is held stays where it is. -/
theorem isPrefix (h : Conserved held cameIn [] left) : held <+: left :=
  ⟨cameIn, h.symm⟩

/-- What is left after a first time is held at first in a second one. -/
theorem trans (h : Conserved held cameIn passedOn left) {cameIn' passedOn' left' : List α}
    (h' : Conserved left cameIn' passedOn' left') :
    Conserved held (cameIn ++ cameIn') (passedOn ++ passedOn') left' := by
  unfold Conserved at h h' ⊢
  calc
    passedOn ++ passedOn' ++ left'
    _ = passedOn ++ (left ++ cameIn') := by rw [List.append_assoc, h']
    _ = held ++ (cameIn ++ cameIn') := by rw [← List.append_assoc, h, List.append_assoc]

end Conserved

namespace Session

/-- Something that happens in a session. -/
inductive Act
  | event (event : Event)
  /-- A line is handled at once. What comes of it is told in the next update. -/
  | handle (line : String)

/-- The session after an act. -/
def enact (act : Act) (s : Session) : Session :=
  match act with
  | .event event => (s.perform event).state
  | .handle line => (listen (s.handle line)).state

/-- The session after some acts, the first one first. -/
def enactAll (acts : List Act) (s : Session) : Session :=
  acts.foldl (fun s act => s.enact act) s

/-- What passes between a session and its host. -/
structure Traffic where
  /-- What the host is told, one update after the other. -/
  told : List Update := []
  /-- The reports on the lines that are handled, with the forwarder as their delegate while it is attached. -/
  reports : List Report := []
  /-- The mail that is asked for, in operations and in lines. -/
  requests : List Mail := []

namespace Traffic

/-- The commands that the host is told. -/
def commands (t : Traffic) : List Command :=
  t.told.flatMap Update.commands

/-- The commands that were given to the forwarder, going by the reports. -/
def delegated (t : Traffic) : List Command :=
  t.reports.filterMap Report.delegated?

/-- The mail that the host is told to compose. -/
def mail (t : Traffic) : List Mail :=
  t.told.flatMap fun update => update.delivery.mail

/-- What passes at one time and then at another. -/
def followedBy (t later : Traffic) : Traffic where
  told := t.told ++ later.told
  reports := t.reports ++ later.reports
  requests := t.requests ++ later.requests

end Traffic

/-- A submitted line on its way. It is echoed before it is dispatched. -/
def runOf (line : String) (s : Session) : Run Console :=
  dispatch Console.facade s.registry s.forwarder.delegate line (s.console.append (Console.echo line))

/-- What passes when a line is handled. On a blank line there is no report. -/
def handlingTraffic (line : String) (s : Session) : Traffic :=
  if Text.isBlank line then {}
  else { reports := [(s.runOf line).report], requests := (s.runOf line).requests (s.console.append (Console.echo line)) }

/-- What passes when some lines are handled, one after the other. -/
def handlingAllTraffic : List String → Session → Traffic
  | [], _ => {}
  | line :: lines, s => (s.handlingTraffic line).followedBy (handlingAllTraffic lines (s.handle line).state)

/-- What passes in an act. -/
def Act.traffic (act : Act) (s : Session) : Traffic :=
  match act with
  | .handle line => s.handlingTraffic line
  | .event (.operate op) => { requests := op.requests s.console }
  | .event (.process line delegate) =>
    { requests := (dispatch Console.facade s.registry delegate line s.console).requests s.console }
  | .event .update => (handlingAllTraffic s.submitted s.announcedShown).followedBy { told := [s.update.answer] }
  | .event _ => {}

/-- What passes in some acts, the first one first. -/
def traffic : List Act → Session → Traffic
  | [], _ => {}
  | act :: acts, s => (act.traffic s).followedBy (traffic acts (s.enact act))

/-- From one session to another, no command and no mail was lost, told twice or told out of order. -/
structure Accounts (s : Session) (t : Traffic) (s' : Session) : Prop where
  commands : Conserved s.forwarder.received t.delegated t.commands s'.forwarder.received
  mail : Conserved s.console.queue.mail t.requests t.mail s'.console.queue.mail

namespace Accounts

variable {s s' : Session} {t : Traffic}

/-- Nothing passes if what is held stays the same. -/
theorem of_eq (received : s'.forwarder.received = s.forwarder.received)
    (mail : s'.console.queue.mail = s.console.queue.mail) : Accounts s {} s' := by
  refine ⟨?_, ?_⟩
  · rw [received]
    exact .refl _
  · rw [mail]
    exact .refl _

theorem trans (h : Accounts s t s') {t' : Traffic} {s'' : Session} (h' : Accounts s' t' s'') :
    Accounts s (t.followedBy t') s'' := by
  have commands := h.commands.trans h'.commands
  have mail := h.mail.trans h'.mail
  refine ⟨?_, ?_⟩
  · rw [Traffic.delegated, Traffic.commands, Traffic.followedBy, List.filterMap_append, List.flatMap_append]
    exact commands
  · rw [Traffic.mail, Traffic.followedBy, List.flatMap_append]
    exact mail

/-- Mail may be asked for and queued. -/
theorem of_requests {requests : List Mail} (received : s'.forwarder.received = s.forwarder.received)
    (mail : s'.console.queue.mail = s.console.queue.mail ++ requests) : Accounts s { requests } s' := by
  refine ⟨?_, .of_eq_append mail⟩
  rw [received]
  exact .refl _

/-- Entries that are heard have nothing to do with what is held. -/
theorem listen {α : Type} {o : Outcome Session α} (h : Accounts s t o.state) : Accounts s t (listen o).state := by
  rw [Session.listen, hear_eq]
  exact ⟨h.commands, h.mail⟩

end Accounts

/-- A line that is handled passes its command to the forwarder and its mail to the queue. -/
theorem accounts_handle (line : String) (s : Session) : Accounts s (s.handlingTraffic line) (s.handle line).state := by
  unfold handlingTraffic handle
  by_cases blank : Text.isBlank line = true
  · simp only [blank, if_true]
    exact .of_eq rfl rfl
  · simp only [blank, Bool.false_eq_true, if_false]
    have forwarded : (s.runOf line).forwarded = (s.runOf line).report.delegated?.toList := forwarded_dispatch _ _ _ _ _
    have mail := Console.mail_dispatch s.registry s.forwarder.delegate line (s.console.append (Console.echo line))
    refine ⟨?_, mail⟩
    show s.forwarder.received ++ (s.runOf line).forwarded = s.forwarder.received ++ _
    rw [forwarded, Traffic.delegated, List.filterMap_cons]
    cases (s.runOf line).report.delegated? <;> rfl

theorem accounts_handleAll (lines : List String) (s : Session) :
    Accounts s (handlingAllTraffic lines s) (s.handleAll lines).state := by
  induction lines generalizing s with
  | nil => exact .of_eq rfl rfl
  | cons line lines ih =>
    rw [handleAll_cons]
    exact (accounts_handle line s).trans (ih (s.handle line).state)

/-- What passes when lines are handled in two goes. -/
theorem handlingAllTraffic_append (lines later : List String) (s : Session) :
    handlingAllTraffic (lines ++ later) s =
      (handlingAllTraffic lines s).followedBy (handlingAllTraffic later (s.handleAll lines).state) := by
  induction lines generalizing s with
  | nil => rfl
  | cons line lines ih =>
    rw [List.cons_append, handlingAllTraffic, handlingAllTraffic, ih, handleAll_cons]
    simp only [Traffic.followedBy, List.append_assoc]

/-- An update tells all that is held when its lines have been handled. -/
theorem accounts_update (s : Session) : Accounts s ((Act.event .update).traffic s) s.update.state := by
  have shown : Accounts s {} s.announcedShown := by
    refine .of_eq rfl ?_
    rw [announcedShown, Console.queue_appendAll]
  have handled : Accounts s.announcedShown (handlingAllTraffic s.submitted s.announcedShown) s.handled.state :=
    accounts_handleAll s.submitted s.announcedShown
  have told : Accounts s.handled.state { told := [s.update.answer] } s.update.state := by
    rw [update_eq]
    refine ⟨?_, ?_⟩
    · simp [Conserved, Traffic.delegated, Traffic.commands, Forwarder.drain]
    · simp [Conserved, Traffic.mail, Console.drain]
  exact shown.trans (handled.trans told)

/-- The commands of an update are those that were held and those that its lines have given to the forwarder. -/
theorem commands_update (s : Session) :
    ((Act.event .update).traffic s).commands = s.forwarder.received ++ ((Act.event .update).traffic s).delegated := by
  have told := (accounts_update s).commands
  rwa [Conserved, (idle_update s).received, List.append_nil] at told

/-- Every act passes on what it is asked to. -/
theorem accounts_enact (act : Act) (s : Session) : Accounts s (act.traffic s) (s.enact act) := by
  cases act with
  | handle line => exact (accounts_handle line s).listen
  | event event =>
    cases event with
    | update => exact accounts_update s
    | operate op =>
      simp only [enact, perform]
      exact Accounts.listen (.of_requests rfl (Console.mail_perform op s.console))
    | process line delegate =>
      simp only [enact, perform]
      exact Accounts.listen (.of_requests rfl (Console.mail_dispatch s.registry delegate line s.console))
    | load path =>
      simp only [enact, perform]
      split
      · exact .of_eq rfl rfl
      · exact Accounts.listen (.of_eq rfl rfl)
    | list name =>
      refine .of_eq ?_ rfl
      simp only [enact, perform, quietly, Forwarder.list]
      split <;> rfl
    | hostLog severity target message =>
      simp only [enact, perform, quietly, hear_eq]
      exact .of_eq rfl rfl
    | register name | unregister name =>
      simp only [enact, perform]
      exact Accounts.listen (.of_eq rfl rfl)
    | _ => exact .of_eq rfl rfl

/-- So does every run. -/
theorem accounts_enactAll (acts : List Act) (s : Session) : Accounts s (traffic acts s) (s.enactAll acts) := by
  induction acts generalizing s with
  | nil => exact .of_eq rfl rfl
  | cons act acts ih => exact (accounts_enact act s).trans (ih (s.enact act))

/-- The host is told nothing but in updates. -/
theorem told_eq_nil {act : Act} (h : act ≠ .event .update) (s : Session) : (act.traffic s).told = [] := by
  cases act with
  | handle line =>
    simp only [Act.traffic, handlingTraffic]
    split <;> rfl
  | event event =>
    cases event with
    | update => exact absurd rfl h
    | _ => rfl

/-- A session that has started holds nothing. -/
theorem started_holds_nothing (l : Launch) :
    (started l).state.forwarder.received = [] ∧ (started l).state.console.queue.mail = [] := by
  obtain ⟨console, registry, session⟩ := started_frame l
  refine ⟨?_, ?_⟩
  · rw [session, hear_eq]
    rfl
  · apply started_induction (P := fun c => c.queue.mail = [])
    · unfold initial
      cases l.capacity <;> rfl
    · intro c settings before
      exact before
    · intro c m before
      rw [Console.mail_move, before]

/-- User commands and mail are passed on once and in order, whatever happens in a session. The commands that all updates have told so far,
followed by those that the forwarder still holds, are the ones that it was given by the lines handled so far, going by their reports. The
mail that all updates have told, followed by what is still queued, is what was asked for, each with the body that it had then. An act
that is no update takes nothing away from what is held, be it a clear, a reset or a detachment. An update leaves nothing queued at all,
so by then all commands and all mail have been told. A line with a delegate of its own hands its command over at once. -/
theorem passed_on_once (l : Launch) (acts : List Act) :
    let start := (started l).state
    let passed := traffic acts start
    let now := start.enactAll acts
    passed.commands ++ now.forwarder.received = passed.delegated ∧
      passed.mail ++ now.console.queue.mail = passed.requests ∧
      (∀ act, act ≠ .event .update →
        now.forwarder.received <+: (now.enact act).forwarder.received ∧
          now.console.queue.mail <+: (now.enact act).console.queue.mail) ∧
      (let updated := now.enact (.event .update)
        let told := traffic (acts ++ [.event .update]) start
        updated.console.queue = {} ∧ updated.forwarder.received = [] ∧
          told.commands = told.delegated ∧ told.mail = told.requests) ∧
      ∀ line delegate, ∃ report,
        (now.perform (.process line delegate)).answer = .processed report report.delegated?.toList := by
  intro start passed now
  obtain ⟨received, mail⟩ := started_holds_nothing l
  have accounts : ∀ acts, (traffic acts start).commands ++ (start.enactAll acts).forwarder.received =
        (traffic acts start).delegated ∧
      (traffic acts start).mail ++ (start.enactAll acts).console.queue.mail = (traffic acts start).requests := by
    intro acts
    obtain ⟨commands, queued⟩ := accounts_enactAll acts start
    unfold Conserved at commands queued
    rw [received, List.nil_append] at commands
    rw [mail, List.nil_append] at queued
    exact ⟨commands, queued⟩
  obtain ⟨commands, queued⟩ := accounts acts
  refine ⟨commands, queued, ?_, ?_, ?_⟩
  · intro act other
    obtain ⟨kept, left⟩ := accounts_enact act now
    rw [Traffic.commands, told_eq_nil other] at kept
    rw [Traffic.mail, told_eq_nil other] at left
    exact ⟨kept.isPrefix, left.isPrefix⟩
  · intro updated told
    have idle : updated.Idle := idle_update now
    have last : start.enactAll (acts ++ [.event .update]) = updated := by
      rw [enactAll, List.foldl_append]
      rfl
    obtain ⟨commands, queued⟩ := accounts (acts ++ [.event .update])
    rw [last, idle.received, List.append_nil] at commands
    rw [last, idle.queue] at queued
    exact ⟨idle.queue, idle.received, commands, (List.append_nil _).symm.trans queued⟩
  · intro line delegate
    exact ⟨_, congrArg (Answer.processed _) (forwarded_dispatch Console.facade now.registry delegate line now.console)⟩

example :
    let acts : List Act :=
      [.event (.register "spawn"), .event (.operate (.allowMail true)), .handle "-spawn Orc", .handle "-sendemail dev",
        .event .detach, .event (.operate (.move .reset)), .handle "-spawn Elf", .event .update]
    let passed := traffic acts (started {}).state
    passed.commands = [⟨"spawn", ["orc"]⟩] ∧ passed.mail = [⟨["dev"], "$ -spawn Orc\n$ -sendemail dev"⟩] := by
  decide +kernel

end Session

end DebugConsole
