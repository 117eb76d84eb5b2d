import DebugConsole.Proofs.Console.Mirror
import Mathlib.Data.List.DropRight

/-!
# The capped buffer

A line that is appended to a full buffer pushes out the oldest ones. How many is a difference of two numbers, and the capacity can be
lowered below the number of lines at any time, so the difference has to be taken with care: `Console.append?` appends a line with checks
and gives up where a number would fall below zero or more lines would be removed than there are. It never does, and it comes to
`Console.append` (`append?_eq`).

What is done to a buffer is a list of revisions. What they come to is said of the lines and the capacity alone (`Revision.revise`), and no
line gets lost on the way: those that the cap pushed out are told to the host like all others (`buffer_exact`).
-/

namespace DebugConsole

namespace Console

/-! ## Appending with checks -/

/-- A difference that is not below zero. -/
def difference? (n m : Nat) : Option Nat :=
  if m ≤ n then some (n - m) else none

/-- The lines without the oldest ones, if there are that many. -/
def removeOldest? (n : Nat) (lines : List Line) : Option (List Line) :=
  if n ≤ lines.length then some (lines.drop n) else none

/-- The lines that a buffer keeps when one more is appended: all of them unless it is full. -/
def kept? (lines : List Line) (capacity : Nat) : Option (List Line) :=
  if capacity ≤ lines.length then
    (difference? (lines.length + 1) capacity).bind fun overflow => removeOldest? overflow lines
  else some lines

/-- Appends a line with checks. -/
def append? (l : Line) (c : Console) : Option Console :=
  (kept? c.lines c.capacity).map fun lines =>
    { c with lines := lines ++ [l], queue := { c.queue with outputs := c.queue.outputs ++ [l] } }

/-- A buffer with room for one line at least can always make room for one. -/
theorem kept?_eq (lines : List Line) {capacity : Nat} (h : 0 < capacity) :
    kept? lines capacity = some (lines.drop (lines.length + 1 - capacity)) := by
  unfold kept?
  by_cases full : capacity ≤ lines.length
  · have counted : difference? (lines.length + 1) capacity = some (lines.length + 1 - capacity) := if_pos (by omega)
    have there : lines.length + 1 - capacity ≤ lines.length := by omega
    rw [if_pos full, counted, Option.bind_some, removeOldest?, if_pos there]
  · have room : lines.length + 1 - capacity = 0 := by omega
    rw [if_neg full, room, List.drop_zero]

/-- No check fails, whatever the console. -/
theorem append?_eq (l : Line) (c : Console) : c.append? l = some (c.append l) := by
  rw [append?, kept?_eq c.lines c.capacity_pos]
  rfl

/-- The buffer after a line was appended: the end of all lines that the capacity allows for. -/
theorem appended_eq_rtake (lines : List Line) {capacity : Nat} (h : 0 < capacity) (l : Line) :
    appended lines capacity l = (lines ++ [l]).rtake (min (lines.length + 1) capacity) := by
  have overflow : lines.length + 1 - min (lines.length + 1) capacity = lines.length + 1 - capacity := by omega
  rw [appended, List.rtake, List.length_append, List.length_singleton, overflow,
    List.drop_append_of_le_length (by omega)]

theorem length_appended_le (lines : List Line) {capacity : Nat} (h : 0 < capacity) (l : Line) :
    (appended lines capacity l).length ≤ capacity := by
  rw [appended, List.length_append, List.length_drop, List.length_singleton]
  omega

/-! ## Revisions -/

/-- Something that is done to a buffer. -/
inductive Revision
  | append (l : Line)
  | clear
  | recap (capacity : Nat)
  /-- What is in the queue is told to the host. -/
  | drain
deriving DecidableEq, Repr

namespace Revision

/-- The revision as a step in the life of a console. -/
def step : Revision → Step
  | append l => .operate (.print .console l)
  | clear => .operate .clear
  | recap n => .operate (.recap n)
  | drain => .drain

/-- The console after a revision, if no check fails. -/
def carryOut? (c : Console) : Revision → Option Console
  | append l => c.append? l
  | clear => some c.clear
  | recap n => some (c.recap n)
  | drain => some c.drain.2

/-- The lines of a buffer and its capacity after a revision. Another capacity leaves the lines as they are. -/
def revise (buffer : List Line × Nat) : Revision → List Line × Nat
  | append l => ((buffer.1 ++ [l]).rtake (min (buffer.1.length + 1) buffer.2), buffer.2)
  | clear => ([], buffer.2)
  | recap n => (buffer.1, max n 1)
  | drain => buffer

/-- A revision is carried out as it is said, and no check fails. -/
theorem carryOut?_eq (c : Console) (r : Revision) :
    r.carryOut? c = some (c.take r.step).2 ∧
      ((c.take r.step).2.lines, (c.take r.step).2.capacity) = revise (c.lines, c.capacity) r := by
  cases r with
  | append l => exact ⟨append?_eq l c, congrArg (·, c.capacity) (appended_eq_rtake c.lines c.capacity_pos l)⟩
  | clear | recap n | drain => exact ⟨rfl, rfl⟩

end Revision

namespace Life

/-- The console after some revisions, if no check fails in any of them, has the lines and the capacity that are said of them. -/
theorem run_revisions (life : Life) (revisions : List Revision) :
    let now := (life.run (revisions.map Revision.step)).console
    revisions.foldlM Revision.carryOut? life.console = some now ∧
      (now.lines, now.capacity) = revisions.foldl Revision.revise (life.console.lines, life.console.capacity) := by
  induction revisions generalizing life with
  | nil => exact ⟨rfl, rfl⟩
  | cons r revisions ih =>
    obtain ⟨carried, revised⟩ := r.carryOut?_eq life.console
    obtain ⟨rest, lines⟩ := ih (life.after r.step)
    refine ⟨?_, ?_⟩
    · rw [List.foldlM_cons, carried]
      exact rest
    · rw [List.foldl_cons, ← revised]
      exact lines

/-- How many of the lines that were appended since the last clear the host has been told. -/
def drained (life : Life) : Nat :=
  if life.console.queue.cleared then 0 else life.client.length

/-- All lines since the last clear are those that the cap pushed out and those in the buffer, and the queue has all of them but those
that the host has been told. -/
theorem Mirrored.exists_dropped {life : Life} (h : life.Mirrored) :
    ∃ dropped, life.ledger.lines = dropped ++ life.console.lines ∧
      life.console.queue.outputs = (dropped ++ life.console.lines).drop life.drained := by
  obtain ⟨dropped, all⟩ := h.buffered
  refine ⟨dropped, all.symm, ?_⟩
  rw [all, ← h.queued, Delivery.applyTo, drained]
  split
  · rfl
  · rw [List.drop_left]

/-- The buffer of a console is exact. Let anything happen to a console and then any lines be appended to it, its buffer be cleared, its
capacity be changed to any number and its queue be drained, in any order. No number falls below zero on the way, and no more lines are
removed than there are. The lines in the buffer and its capacity are what the revisions say one by one: a line that is appended leaves as
many of the last lines as the capacity in force allows for, it is the last of them, a clear leaves none, and nothing else changes them.
What was appended since the last clear is what the cap pushed out and then what is in the buffer; and the queue holds all of this that
was not drained, so it holds what the cap pushed out as well. -/
theorem buffer_exact (settings : Settings) (past : List Step) (revisions : List Revision) :
    let before := (start settings).run past
    let now := before.run (revisions.map Revision.step)
    revisions.foldlM Revision.carryOut? before.console = some now.console ∧
    (now.console.lines, now.console.capacity) =
      revisions.foldl Revision.revise (before.console.lines, before.console.capacity) ∧
    (∀ earlier l, revisions = earlier ++ [.append l] →
      now.console.lines.getLast? = some l ∧ now.console.lines.length ≤ now.console.capacity) ∧
    ∃ dropped, now.ledger.lines = dropped ++ now.console.lines ∧
      now.console.queue.outputs = (dropped ++ now.console.lines).drop now.drained := by
  intro before now
  obtain ⟨carried, revised⟩ := before.run_revisions revisions
  refine ⟨carried, revised, ?_, ?_⟩
  · rintro earlier l rfl
    have last : now.console = (before.run (earlier.map Revision.step)).console.append l := by
      show (before.run ((earlier ++ [Revision.append l]).map Revision.step)).console = _
      rw [List.map_append, run_append]
      rfl
    rw [last]
    exact ⟨List.getLast?_concat, length_appended_le _ (before.run _).console.capacity_pos l⟩
  · have kept : now.Mirrored := by
      have all := mirrored settings (past ++ revisions.map Revision.step)
      rwa [run_append] at all
    exact kept.exists_dropped

end Life

end Console

end DebugConsole
