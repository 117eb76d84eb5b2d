import DebugConsole.Notation.Record
import DebugConsole.Proofs.Notation.Unknown

/-!
# Records, tuples, variants and optional values as they may be written

Each form of values is read if its parts are, whatever follows it: a record around its contents, a tuple of two, a list, a variant around
its part and a value that may be missing. Where parts are written bare, the parentheses of a variant or an optional value hold what else
would stand in the parentheses of the part (`PartOf`).
-/

namespace DebugConsole

namespace Notation

variable {α β : Type}

/-! ## Records -/

/-- What may stand in front of the opening parenthesis of a record: its name, which may be left out unless all records are named. -/
inductive RecordHead (e : Extensions) (name : String) : List Char → Prop
  | none (h : e.namedRecords = false) : RecordHead e name []
  | named {cs gap : List Char} (h : Name name cs) (hgap : Gap gap) : RecordHead e name (cs ++ gap)

/-- A record around its fields. -/
inductive RecordOf (e : Extensions) (name : String) (inside : List Char) : List Char → Prop
  | mk {head gap : List Char} (hh : RecordHead e name head) (hgap : Gap gap) :
    RecordOf e name inside (head ++ '(' :: (gap ++ (inside ++ [')'])))

theorem RecordOf.inside_infix {e : Extensions} {name : String} {inside cs : List Char} (h : RecordOf e name inside cs) :
    inside <:+: cs := by
  obtain ⟨_, _⟩ := h
  exact infix_enclosed [] _ _ inside

namespace Reader

variable {e : Extensions} {depth : Nat} {cs inside rest : List Char} {outcome : Option α → Prop}

/-- The name of a record is taken if it is there. -/
theorem reads_recordName {word : String} {ks : List Char} (h : Name word ks) (ends : EndsName rest) :
    Reads (recordName e word) (ks ++ rest) () rest := by
  obtain ⟨mark, found, -⟩ := name?_written h ends
  refine (reads_rest _).bind ?_
  rw [head_name h, found]
  refine (reads_name_written h ends).bind ?_
  rw [if_neg (not_not.2 rfl)]
  exact Reads.pure () rest

/-- The front of a record is taken up to its opening parenthesis. -/
theorem reads_recordHead {word : String} {head : List Char} (h : RecordHead e word head) (rest : List Char) :
    ∃ mid, Reads (recordName e word) (head ++ '(' :: rest) () mid ∧ Reads spaces mid () ('(' :: rest) := by
  cases h with
  | none unnamed => exact ⟨'(' :: rest, reads_recordName_none unnamed word rest, reads_no_spaces (starts_open rest)⟩
  | @named ks gap h hgap =>
    refine ⟨gap ++ '(' :: rest, ?_, reads_gap hgap (starts_open rest)⟩
    rw [List.append_assoc]
    exact reads_recordName h (endsName_gap hgap List.mem_cons_self rest)

theorem opens_recordHead {word : String} {head : List Char} (h : RecordHead e word head) (rest : List Char) :
    Opens (head ++ '(' :: rest) := by
  cases h with
  | none _ => exact opens_cons (by decide) rest
  | named h _ => exact ((opens_name h).append _).append _

theorem opens_recordOf {word : String} (h : RecordOf e word inside cs) : Opens cs := by
  obtain ⟨hh, -⟩ := h
  exact opens_recordHead hh _

/-- What a reader comes to in a text up to the parenthesis that closes it, with any gap in front. -/
def GivesInside (r : Reader α) (inside : List Char) (outcome : Option α → Prop) : Prop :=
  ∀ gap, Gap gap → ∀ rest, ∃ result, outcome result ∧ Gives r (gap ++ (inside ++ ')' :: rest)) result (')' :: rest)

/-- A record comes to what its contents come to, whatever follows it. -/
theorem gives_record {word : String} {contents : Nat → Reader α} (h : RecordOf e word inside cs)
    (read : GivesInside (contents depth) inside outcome) (rest : List Char) :
    ∃ result, outcome result ∧ Gives (record e false word (depth + 1) contents) (cs ++ rest) result rest := by
  obtain ⟨hh, hgap⟩ := h
  simp only [List.append_assoc, List.cons_append, List.nil_append]
  obtain ⟨mid, named, opened⟩ := reads_recordHead hh _
  obtain ⟨result, come, taken⟩ := read _ hgap rest
  refine ⟨result, come, named.bind_gives (opened.bind_gives ((reads_expect '(' _ _).bind_gives ?_))⟩
  rw [← Option.bind_fun_some result]
  refine Gives.bind taken fun value _ => ?_
  exact (reads_no_spaces (starts_close rest)).bind ((reads_expect ')' _ rest).bind (Reads.pure value rest))

theorem yields_record {word : String} {contents : Nat → Reader α} (h : RecordOf e word inside cs)
    (read : GivesInside (contents depth) inside outcome) : Yields (record e false word (depth + 1) contents) cs outcome :=
  yields (opens_recordOf h) fun _ => gives_record h read _

/-- So does a record that is written bare, and it has no parentheses of its own. -/
theorem fills_record {word : String} {contents : Nat → Reader α} (opens : inside = [] ∨ Opens inside)
    (read : GivesInside (contents depth) inside outcome) : Fills (record e true word (depth + 1) contents) inside outcome := by
  refine fills_upTo opens fun {rest} _ => ?_
  obtain ⟨result, come, taken⟩ := read [] .nil rest
  refine ⟨result, come, ?_⟩
  rw [← Option.bind_fun_some result]
  exact Gives.bind taken fun value _ => (reads_no_spaces (starts_close rest)).bind (Reads.pure value _)

/-! ## Tuples -/

/-- A tuple of two values around its parts. -/
inductive PairOf (e : Extensions) (name : String) (inside : List Char) : List Char → Prop
  | unnamed {gap : List Char} (h : e.namedRecords = false) (hgap : Gap gap) : PairOf e name inside ('(' :: (gap ++ (inside ++ [')'])))
  | named {ks gap : List Char} (h : Name name ks) (hgap : Gap gap) : PairOf e name inside (ks ++ '(' :: (gap ++ (inside ++ [')'])))

/-- Takes one part of a tuple of two. -/
def pairPart (depth : Nat) (item : Reader α) (found : Nat) (more : Bool) : Reader (α × Bool) := do
  spaces
  if !more || (← peek?) = some ')' then
    fail (.wrongLength "a sequence of 2 f32values" (if found = 0 then "zero elements" else "one element"))
  let value ← deeper depth fun _ => item
  return (value, ← comma)

/-- A part of a tuple is taken with what is behind it. -/
theorem reads_pairPart {item : Reader α} {a : α} (h : Takes item cs a) (found : Nat) {front gap : List Char} (hfront : Gap front)
    (hgap : Gap gap) {c : Char} (follows : c ∈ marks) {tail next : List Char} {more : Bool}
    (comma_read : ∀ {left}, Gap left → Reads comma (left ++ c :: tail) more next) :
    Reads (pairPart (depth + 1) item found true) (front ++ (cs ++ (gap ++ c :: tail))) (a, more) next := by
  obtain ⟨_, rfl, left, hleft, taken⟩ := h.gives hgap follows tail
  refine (reads_gap hfront (h.opens.append _).starts).bind ((reads_peek _).bind ?_)
  rw [if_neg (goes_on_at h.opens.starts (h.opens.head_ne (by decide)) _)]
  exact Reads.bind taken ((comma_read hleft).bind (Reads.pure _ next))

/-- The front of a tuple is taken with its opening parenthesis. -/
theorem reads_pairHead {word : String} (h : PairOf e word inside cs) :
    Opens cs ∧ ∃ gap, Gap gap ∧ ∀ rest, ∃ mid, Reads (recordName e word) (cs ++ rest) () mid ∧
      mid = '(' :: (gap ++ (inside ++ ')' :: rest)) := by
  cases h with
  | @unnamed gap unnamed hgap =>
    refine ⟨opens_cons (by decide) _, gap, hgap, fun rest => ⟨_, ?_, rfl⟩⟩
    simp only [List.append_assoc, List.cons_append, List.nil_append]
    exact reads_recordName_none unnamed word _
  | @named ks gap hk hgap =>
    refine ⟨(opens_name hk).append _, gap, hgap, fun rest => ⟨_, ?_, rfl⟩⟩
    simp only [List.append_assoc, List.cons_append, List.nil_append]
    exact reads_recordName hk (endsName_open _)

/-- Takes the two parts of a tuple. -/
def pairParts (depth : Nat) (item : Reader α) : Reader (α × α) := do
  let first ← pairPart depth item 0 true
  let second ← pairPart depth item 1 first.2
  return (first.1, second.1)

/-- The parts of a tuple are taken up to its closing parenthesis. -/
theorem reads_pairParts {item : Reader α} {p : α → List Char → Prop} (each : ∀ a cs, p a cs → Takes item cs a) {a b : α}
    (h : Listing p [a, b] inside) {gap : List Char} (hgap : Gap gap) (rest : List Char) :
    Reads (pairParts (depth + 1) item) (gap ++ (inside ++ ')' :: rest)) (a, b) (')' :: rest) := by
  cases h with
  | @cons _ _ fs before behind more first hb hb' others =>
    have second_starts := starts_listing (fun b cs h => (each b cs h).opens) others (by decide : ')' ∈ marks) rest
    simp only [List.append_assoc, List.cons_append]
    refine (reads_pairPart (each a fs first) 0 hgap hb (by decide) fun hleft => reads_comma_gaps hleft hb' second_starts).bind ?_
    cases others with
    | @last _ ss gap' second hgap' =>
      rw [List.append_assoc]
      refine Reads.bind (reads_pairPart (each b ss second) 1 .nil hgap' (by decide) fun hleft =>
        reads_no_comma_gap hleft (by decide) (by decide) rest) (Reads.pure _ _)
    | @cons _ _ ss before' behind' _ second hc hc' none =>
      cases none
      simp only [List.append_assoc, List.cons_append, List.nil_append]
      refine Reads.bind (reads_pairPart (each b ss second) 1 .nil hc (by decide) fun hleft =>
        reads_comma_gaps hleft hc' (starts_close rest)) (Reads.pure _ _)

section

variable {item : Reader α} {p : α → List Char → Prop} {word : String} {a b : α}

/-- A tuple of two values is taken if they are. -/
theorem takes_pair (each : ∀ a cs, p a cs → Takes item cs a) (h : Listing p [a, b] inside) (text : PairOf e word inside cs) :
    Takes (pair e false word (depth + 2) item) cs (a, b) := by
  obtain ⟨opens, gap, hgap, front⟩ := reads_pairHead text
  refine takes opens fun {rest} _ => ?_
  obtain ⟨mid, named, rfl⟩ := front rest
  have parts : Reads (pairParts (depth + 1) item) (gap ++ (inside ++ ')' :: rest)) (a, b) (')' :: rest) := reads_pairParts each h hgap rest
  refine named.bind ((reads_expect '(' _ _).bind (parts.bind ?_))
  exact (reads_no_spaces (starts_close rest)).bind ((reads_expect ')' _ rest).bind (Reads.pure (a, b) rest))

/-- So is one that is written bare. -/
theorem fills_pair (each : ∀ a cs, p a cs → Takes item cs a) (h : Listing p [a, b] inside) :
    Fills (pair e true word (depth + 2) item) inside (· = some (a, b)) := by
  have opens : Opens inside := by
    cases h with
    | cons first _ _ _ => exact (each a _ first).opens.append _
  refine fills_upTo (.inr opens) fun {rest} _ => ⟨_, rfl, ?_⟩
  have parts : Reads (pairParts (depth + 1) item) (inside ++ ')' :: rest) (a, b) (')' :: rest) := reads_pairParts each h .nil rest
  refine parts.bind ?_
  exact (reads_no_spaces (starts_close rest)).bind (Reads.pure (a, b) _)

end

/-! ## Lists -/

/-- A list is read with its items. -/
theorem takes_list {item : Nat → Reader α} {p : β → List Char → Prop} {value : β → α}
    (each : ∀ b cs, p b cs → Takes (item depth) cs (value b)) {gap : List Char} (hgap : Gap gap) {parts : List β}
    (h : Listing p parts inside) : Takes (list (depth + 2) item) ('[' :: (gap ++ (inside ++ [']']))) (parts.map value) := by
  refine takes (opens_cons (by decide) _) fun {rest} _ => ?_
  simp only [List.append_assoc, List.cons_append, List.nil_append]
  refine (reads_expect '[' _ _).bind ?_
  refine Reads.bind (reads_items_listing (by decide : ']' ∈ marks) (by decide) each hgap h rest) ?_
  exact (reads_expect ']' _ rest).bind (Reads.pure _ rest)

end Reader

/-! ## Variants and optional values -/

/-- What stands in the parentheses of a variant or an optional value: its part alone or, where parts are written bare, what else would
stand in the parentheses of the part. -/
inductive PartOf (e : Extensions) (whole bare : List Char → Prop) : List Char → Prop
  | whole {cs : List Char} (full : e.bareVariants = false) (h : Lone whole cs) : PartOf e whole bare cs
  | bare {cs : List Char} (unwrapped : e.bareVariants = true) (h : bare cs) : PartOf e whole bare cs

/-- How a value that may be missing is written: the word for none, what it holds in parentheses, or the value alone where that is
allowed. -/
inductive OptionalText (e : Extensions) (value inside : α → List Char → Prop) : Option α → List Char → Prop
  | none : OptionalText e value inside none "None".toList
  | some {a : α} {gap text : List Char} (hgap : Gap gap) (h : Enclosed (inside a) text) :
    OptionalText e value inside (some a) ("Some".toList ++ (gap ++ text))
  | implicit {a : α} {cs : List Char} (allowed : e.implicitSome = true) (h : value a cs) : OptionalText e value inside (some a) cs

namespace Reader

variable {e : Extensions} {depth : Nat} {cs : List Char} {outcome : Option α → Prop}

/-- A part is read as it is written. -/
theorem fills_partOf (contents : Bool → Reader α) {whole bare : List Char → Prop}
    (wholes : ∀ cs, whole cs → Yields (contents false) cs outcome) (bares : ∀ cs, bare cs → Fills (contents true) cs outcome)
    (h : PartOf e whole bare cs) : Fills (contents e.bareVariants) cs outcome := by
  cases h with
  | whole full h =>
    rw [full]
    exact fills_lone wholes h
  | bare unwrapped h =>
    rw [unwrapped]
    exact bares cs h

/-- A variant comes to what its only part comes to. -/
theorem yields_variant {kind word : String} {known : List (String × β)} {which : β} {contents : β → Bool → Nat → Reader α}
    {inside : List Char → Prop} {ks gap text : List Char} (hk : Name word ks) (found : known.lookup word = some which) (hgap : Gap gap)
    (each : ∀ cs, inside cs → Fills (contents which e.bareVariants depth) cs outcome) (h : Enclosed inside text) :
    Yields (variant e kind known (depth + 1) contents) (ks ++ (gap ++ text)) outcome := by
  refine yields ((opens_name hk).append _) fun {rest} behind => ?_
  obtain ⟨opened, result, opening, come, taken⟩ := gives_enclosed each h behind
  refine ⟨result, come, ?_⟩
  rw [List.append_assoc, List.append_assoc, opening]
  refine (reads_no_spaces ((opens_name hk).append _).starts).bind_gives ?_
  refine Reads.bind_gives (reads_name_written hk (endsName_gap hgap List.mem_cons_self opened)) ?_
  rw [found]
  exact (reads_gap hgap (starts_open opened)).bind_gives ((reads_expect '(' _ opened).bind_gives taken)

/-- A value that may be missing is taken however it is written. -/
theorem takes_optionalText (contents : Bool → Nat → Reader α) {value inside : α → List Char → Prop}
    (values : ∀ a cs, value a cs → Takes (contents false depth) cs a)
    (insides : ∀ a cs, inside a cs → Fills (contents e.bareVariants depth) cs (· = some a))
    (wordless : ∀ a cs, value a cs → ∀ rest, Follows rest → firstWord (cs ++ rest) ∉ ["None".toList, "Some".toList])
    {o : Option α} (h : OptionalText e value inside o cs) : Takes (optional e (depth + 1) contents) cs o := by
  cases h with
  | none => exact takes (opens_cons (by decide) _) fun behind => reads_optional_none e (depth + 1) contents behind.ends
  | @some a gap text hgap h =>
    refine takes (opens_cons (by decide) _) fun {rest} behind => ?_
    obtain ⟨_, rfl, taken⟩ := gives_optional_some (fun bare => deeper (depth + 1) (contents bare)) (insides a) hgap h behind
    exact taken
  | @implicit a _ allowed h =>
    have taken := values a cs h
    refine ⟨taken.opens, ?_⟩
    intro gap hgap c mark more
    obtain ⟨_, rfl, left, hleft, read⟩ := taken.gives hgap mark more
    have parts : ∀ w ∈ ["None", "Some"], ∀ c ∈ w.toList, Text.isIdentifierPart c = true := by simp
    have no_word := wordless a cs h _ (follows hgap mark more)
    simp only [List.mem_cons, List.not_mem_nil, or_false, not_or] at no_word
    refine ⟨_, rfl, left, hleft, ?_⟩
    refine (reads_consumeWord_firstWord (parts "None" (by simp)) no_word.1).bind_gives ?_
    refine (reads_consumeWord_firstWord (parts "Some" (by simp)) no_word.2).bind_gives ?_
    refine (Reads.pure false _).bind_gives ?_
    dsimp only
    rw [if_neg Bool.false_ne_true, if_pos allowed]
    exact Reads.map some read

end Reader

end Notation

end DebugConsole
