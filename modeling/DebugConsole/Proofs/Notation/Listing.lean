import DebugConsole.Notation.Record
import DebugConsole.Proofs.Notation.Gap
import DebugConsole.Proofs.Notation.Structure

/-!
# Parts with commas between them

Whatever stands in brackets, its parts have commas between them, and there may be gaps everywhere and a comma behind the last part.
`Listing` is what such a text looks like. It is read in rounds, a part a round: `Reader.gives_rounds` is the induction over the rounds,
for all kinds of parts, and for rounds that stop in the middle as well. A part may be an entry, with a colon between its key and its
value, and what stands in parentheses may be one part alone (`Reader.Fills`).
-/

namespace DebugConsole

namespace Notation

variable {α β σ : Type}

/-- Parts with commas between them, from the first part on. -/
inductive Listing (part : α → List Char → Prop) : List α → List Char → Prop
  | nil : Listing part [] []
  | last {a : α} {cs gap : List Char} (h : part a cs) (hgap : Gap gap) : Listing part [a] (cs ++ gap)
  | cons {a : α} {parts : List α} {cs before behind more : List Char} (h : part a cs) (hb : Gap before) (hb' : Gap behind)
    (others : Listing part parts more) : Listing part (a :: parts) (cs ++ (before ++ ',' :: (behind ++ more)))

namespace Listing

variable {p : α → List Char → Prop} {q : β → List Char → Prop} {parts : List α} {cs : List Char}

/-- The same text is made of other parts if every part is another one. -/
theorem map {f : α → β} (each : ∀ a ∈ parts, ∀ vs, vs <:+: cs → p a vs → q (f a) vs) (h : Listing p parts cs) :
    Listing q (parts.map f) cs := by
  induction h with
  | nil => exact .nil
  | @last a vs gap h hgap => exact .last (each a List.mem_cons_self vs (List.prefix_append vs gap).isInfix h) hgap
  | @cons a parts vs before behind more h hb hb' _ ih =>
    have later : more <:+: vs ++ (before ++ ',' :: (behind ++ more)) :=
      ((List.suffix_append behind more).trans (List.suffix_cons _ _)).trans
        ((List.suffix_append before _).trans (List.suffix_append vs _)) |>.isInfix
    refine .cons (each a List.mem_cons_self vs (List.prefix_append vs _).isInfix h) hb hb' (ih fun b hb ws part => ?_)
    exact each b (List.mem_cons_of_mem a hb) ws (part.trans later)

/-- Parts stand in for others. -/
theorem imp {p q : α → List Char → Prop} (each : ∀ a vs, vs <:+: cs → p a vs → q a vs) (h : Listing p parts cs) : Listing q parts cs := by
  have same := h.map (q := q) (f := id) fun a _ => each a
  rwa [List.map_id] at same

end Listing

/-- A part that stands alone, perhaps with a comma behind it. -/
def Lone (part : List Char → Prop) : List Char → Prop :=
  Listing (fun _ : Unit => part) [()]

/-- What comes of parts that are read one after the other, up to the first one that the reader stops in. -/
inductive Folds (next : σ → α → Option σ → Prop) : List α → σ → Option σ → Prop
  | nil (s : σ) : Folds next [] s (some s)
  | stop {s : σ} {a : α} (parts : List α) (h : next s a none) : Folds next (a :: parts) s none
  | cons {s t : σ} {a : α} {parts : List α} {result : Option σ} (h : next s a (some t)) (others : Folds next parts t result) :
    Folds next (a :: parts) s result

/-- If the reader stops in no part, all parts are read. -/
theorem Folds.isSome {next : σ → α → Option σ → Prop} (goes_on : ∀ s a result, next s a result → result.isSome = true) {parts : List α}
    {s : σ} {result : Option σ} (h : Folds next parts s result) : result.isSome = true := by
  induction h with
  | nil => rfl
  | stop _ h => exact absurd (goes_on _ _ _ h) Bool.false_ne_true
  | cons _ _ ih => exact ih

/-- If the reader stops in every part, it stops in the first one. -/
theorem Folds.eq_none {next : σ → α → Option σ → Prop} (stops : ∀ s a result, next s a result → result = none) {a : α} {parts : List α}
    {s : σ} {result : Option σ} (h : Folds next (a :: parts) s result) : result = none := by
  cases h with
  | stop _ _ => rfl
  | cons first _ => cases stops _ _ _ first

namespace Reader

/-- Such a text starts with its first part or with what closes it. -/
theorem starts_listing {part : α → List Char → Prop} (opens : ∀ a cs, part a cs → Opens cs) {parts : List α} {cs : List Char}
    (h : Listing part parts cs) {close : Char} (mark : close ∈ marks) (rest : List Char) : Starts (cs ++ close :: rest) := by
  cases h with
  | nil => exact starts_mark mark rest
  | last h _ =>
    rw [List.append_assoc]
    exact (opens _ _ h).starts.append _
  | cons h _ _ _ =>
    rw [List.append_assoc]
    exact (opens _ _ h).starts.append _

/-- A round in which the reader stops. -/
theorem stops_iterate {round : σ → Reader (Option σ)} {s : σ} {cs : List Char} (h : Stops (round s) cs) :
    Stops (iterate round s) cs := by
  intro before
  obtain ⟨stop, hr⟩ := h before
  refine ⟨stop, ?_⟩
  rw [iterate, hr]

/-- A round that takes something, and rounds after it that come to something. -/
theorem gives_iterate_step {round : σ → Reader (Option σ)} {s t : σ} {cs mid rest : List Char} {result : Option σ}
    (h : Reads (round s) cs (some t) mid) (shorter : mid.length < cs.length) (others : Gives (iterate round t) mid result rest) :
    Gives (iterate round s) cs result rest := by
  cases result with
  | some u => exact reads_iterate_step h shorter others
  | none =>
    intro before
    obtain ⟨between, hr⟩ := h before
    obtain ⟨stop, ho⟩ := others between
    refine ⟨stop, ?_⟩
    rw [iterate, hr]
    dsimp only
    rw [if_pos shorter, ho]

/-- A round for a part. -/
def roundOf (close : Char) (part : σ → Reader σ) : σ × Bool → Reader (Option (σ × Bool)) := fun (s, more) => do
  spaces
  if !more || (← peek?) = some close then return none
  let t ← part s
  return some (t, ← comma)

variable {part : σ → Reader σ} {close : Char} {cs front gap : List Char} {s : σ} {result : Option σ}

/-- A round ends at the closing character, and after a part without a comma. -/
theorem reads_round_end (part : σ → Reader σ) (mark : close ∈ marks) (s : σ) (more : Bool) (hfront : Gap front) (rest : List Char) :
    Reads (roundOf close part (s, more)) (front ++ close :: rest) none (close :: rest) := by
  have ends : (!more || decide ((close :: rest).head? = some close)) = true := by
    rw [List.head?_cons, decide_eq_true rfl, Bool.or_true]
  refine (reads_gap hfront (starts_mark mark rest)).bind ((reads_peek _).bind ?_)
  rw [if_pos ends]
  exact Reads.pure none _

/-- A round takes a part if the reader for parts does, and then a comma if there is one. -/
theorem gives_round (mark : close ∈ marks) (hfront : Gap front) (opens : Opens cs) {behind rest next : List Char} {more : Bool}
    (taken : Gives (part s) (cs ++ behind) result rest) (comma_read : Reads comma rest more next) :
    Gives (roundOf close part (s, true)) (front ++ (cs ++ behind)) (result.map fun t => some (t, more)) next := by
  refine (reads_gap hfront (opens.append _).starts).bind_gives ((reads_peek _).bind_gives ?_)
  rw [if_neg (goes_on_at opens.starts (opens.head_ne mark) _), Option.map_eq_bind]
  exact taken.bind fun t _ => Reads.bind comma_read (Reads.pure _ _)

/-- The rounds at the parts of a text come to what the parts come to one after the other. -/
theorem gives_rounds (mark : close ∈ marks) (not_comma : close ≠ ',') {p : α → List Char → Prop} {next : σ → α → Option σ → Prop}
    (step : ∀ s a cs, p a cs → Yields (part s) cs (next s a)) {parts : List α} (hfront : Gap front) (h : Listing p parts cs) (s : σ)
    (rest : List Char) :
    ∃ result, Folds next parts s result ∧
      ∃ more, Gives (iterate (roundOf close part) (s, true)) (front ++ (cs ++ close :: rest)) (result.map fun t => (t, more))
        (close :: rest) := by
  have opens : ∀ a cs, p a cs → Opens cs := fun a cs h => (step s a cs h).opens
  induction h generalizing s front with
  | nil => exact ⟨some s, .nil s, true, reads_iterate_stop (reads_round_end part mark s true hfront rest)⟩
  | @last a cs gap h hgap =>
    obtain ⟨result, come, left, hleft, taken⟩ := (step s a cs h).gives hgap mark rest
    have round := gives_round mark hfront (opens a cs h) taken (reads_no_comma_gap hleft mark not_comma rest)
    rw [List.append_assoc]
    cases result with
    | none => exact ⟨none, .stop [] come, false, stops_iterate round⟩
    | some t =>
      have ended := reads_iterate_stop (reads_round_end part mark t false .nil rest)
      exact ⟨some t, .cons come (.nil t), false, gives_iterate_step round ((opens a cs h).length_lt _ _ _) ended⟩
  | @cons a parts cs before behind more h hb hb' others ih =>
    have text : cs ++ (before ++ ',' :: (behind ++ more)) ++ close :: rest =
        cs ++ (before ++ ',' :: (behind ++ (more ++ close :: rest))) := by
      simp only [List.append_assoc, List.cons_append]
    obtain ⟨result, come, left, hleft, taken⟩ := (step s a cs h).gives hb (c := ',') (by decide) (behind ++ (more ++ close :: rest))
    have round := gives_round mark hfront (opens a cs h) taken (reads_comma_gaps hleft hb' (starts_listing opens others mark rest))
    rw [text]
    cases result with
    | none => exact ⟨none, .stop parts come, true, stops_iterate round⟩
    | some t =>
      obtain ⟨result, folds, more', rounds⟩ := ih .nil t
      have less := (opens a cs h).length_lt front (before ++ ',' :: behind) (more ++ close :: rest)
      rw [List.append_assoc, List.cons_append] at less
      exact ⟨result, .cons come folds, more', gives_iterate_step round less rounds⟩

/-! ## Items -/

/-- Items are read round by round. -/
theorem items_eq (close : Char) (item : Reader α) :
    items close item = (do
      let (found, _) ← iterate (roundOf close fun found : List α => do return found ++ [← item]) ([], true)
      spaces
      return found) := by
  have round : roundOf close (fun found : List α => do return found ++ [← item]) = fun (found, more) => do
      spaces
      if !more || (← peek?) = some close then return none
      let value ← item
      return some (found ++ [value], ← comma) := by
    funext s
    simp only [roundOf, bind_assoc, pure_bind]
  rw [round]
  rfl

/-- What comes of one more item, with the items found so far. -/
def Collects (outcome : β → Option α → Prop) (found : List α) (b : β) (result : Option (List α)) : Prop :=
  ∃ value, outcome b value ∧ result = value.map fun v => found ++ [v]

/-- Items are read up to the closing character. -/
theorem gives_items {close : Char} (mark : close ∈ marks) (not_comma : close ≠ ',') {p : β → List Char → Prop} {item : Reader α}
    {outcome : β → Option α → Prop} (each : ∀ b cs, p b cs → Yields item cs (outcome b)) (hgap : Gap gap) {parts : List β}
    (h : Listing p parts cs) (rest : List Char) :
    ∃ result, Folds (Collects outcome) parts [] result ∧
      Gives (items close item) (gap ++ (cs ++ close :: rest)) result (close :: rest) := by
  have step : ∀ (found : List α) b cs, p b cs → Yields (do return found ++ [← item]) cs (Collects outcome found b) :=
    fun found b cs h => (each b cs h).map (fun v => found ++ [v]) fun value come => ⟨value, come, rfl⟩
  obtain ⟨result, folds, more, rounds⟩ := gives_rounds mark not_comma step hgap h [] rest
  refine ⟨result, folds, ?_⟩
  have same : result = (result.map fun t => (t, more)).bind fun t => some t.1 := by cases result <;> rfl
  rw [items_eq, same]
  exact rounds.bind fun t _ => Reads.bind (reads_no_spaces (starts_mark mark rest)) (Reads.pure t.1 _)

/-- If every item is read, their list is. -/
theorem reads_items_listing {close : Char} (mark : close ∈ marks) (not_comma : close ≠ ',') {p : β → List Char → Prop} {item : Reader α}
    {value : β → α} (each : ∀ b cs, p b cs → Takes item cs (value b)) (hgap : Gap gap) {parts : List β} (h : Listing p parts cs)
    (rest : List Char) : Reads (items close item) (gap ++ (cs ++ close :: rest)) (parts.map value) (close :: rest) := by
  have all : ∀ {parts found result}, Folds (Collects fun b => (· = some (value b))) parts found result →
      result = some (found ++ parts.map value) := by
    intro parts found result folds
    induction folds with
    | nil found => rw [List.map_nil, List.append_nil]
    | stop _ h =>
      obtain ⟨v, rfl, none⟩ := h
      cases none
    | cons h _ ih =>
      obtain ⟨v, rfl, found⟩ := h
      cases found
      rw [ih, List.append_assoc, List.singleton_append, List.map_cons]
  obtain ⟨result, folds, taken⟩ := gives_items mark not_comma each hgap h rest
  rw [all folds, List.nil_append] at taken
  exact taken

end Reader

/-! ## Entries and enclosed parts -/

/-- A key and its value with a colon between them. -/
inductive Entry (key value : List Char) : List Char → Prop
  | mk {before behind : List Char} (hb : Gap before) (hb' : Gap behind) : Entry key value (key ++ (before ++ ':' :: (behind ++ value)))

/-- Parentheses with something in them, behind a gap. -/
inductive Enclosed (inside : List Char → Prop) : List Char → Prop
  | mk {gap cs : List Char} (hgap : Gap gap) (h : inside cs) : Enclosed inside ('(' :: (gap ++ (cs ++ [')'])))

namespace Reader

variable {cs rest : List Char}

/-- A colon is taken with the gaps around it. -/
theorem reads_colon_gaps {before behind : List Char} (hb : Gap before) (hb' : Gap behind) (starts : Starts cs) :
    Reads colon (before ++ ':' :: (behind ++ cs)) () cs := by
  refine (reads_gap hb (starts_mark (by decide) _)).bind ((reads_expect ':' _ _).bind ?_)
  exact reads_gap hb' starts

/-- An entry comes to what its value comes to, if its key is taken. -/
theorem yields_entry {key : Reader α} {item : Reader β} {ks vs : List Char} {known : Option α → Prop} {outcome other : Option β → Prop}
    (hk : Yields key ks known) (hv : Yields item vs outcome) (h : Entry ks vs cs)
    (imp : ∀ k v, known k → outcome v → other (k.bind fun _ => v)) :
    Yields (do
      let _ ← key
      colon
      item) cs other := by
  cases h with
  | @mk before behind hb hb' =>
    refine ⟨hk.opens.append _, ?_⟩
    intro gap hgap c mark more
    obtain ⟨k, key_come, left, hleft, key_taken⟩ := hk.gives hb (c := ':') (by decide) (behind ++ (vs ++ (gap ++ c :: more)))
    obtain ⟨v, value_come, left', hleft', value_taken⟩ := hv.gives hgap mark more
    have text : ks ++ (before ++ ':' :: (behind ++ vs)) ++ (gap ++ c :: more) =
        ks ++ (before ++ ':' :: (behind ++ (vs ++ (gap ++ c :: more)))) := by
      simp only [List.append_assoc, List.cons_append]
    refine ⟨k.bind fun _ => v, imp k v key_come value_come, left', hleft', ?_⟩
    rw [text]
    refine key_taken.bind fun _ _ => ?_
    exact (reads_colon_gaps hleft hb' (hv.opens.append _).starts).bind_gives value_taken

/-- Takes something and what stands behind it up to a closing parenthesis: a comma at most. -/
def closed (r : Reader α) : Reader α := do
  let value ← r
  let _ ← comma
  closing ")"
  return value

/-- What a reader comes to in the text between two parentheses: it takes all of it but for a comma at its end, or something stops there. -/
structure Fills (r : Reader α) (cs : List Char) (outcome : Option α → Prop) : Prop where
  opens : cs = [] ∨ Opens cs
  gives : ∀ {rest}, Follows rest → ∃ result, outcome result ∧ Gives (closed r) (cs ++ ')' :: rest) result rest

variable {r : Reader α} {outcome : Option α → Prop}

/-- A part that stands alone comes to what it comes to anywhere. -/
theorem fills_lone {part : List Char → Prop} (each : ∀ cs, part cs → Yields r cs outcome) (h : Lone part cs) : Fills r cs outcome := by
  have close : ')' ∈ marks ∧ ')' ≠ ',' := by decide
  have ended : ∀ {mid : List Char} {more : Bool} {rest : List Char}, Reads comma mid more (')' :: rest) → ∀ value : α,
      Reads (do
        let _ ← comma
        closing ")"
        return value) mid value rest :=
    fun comma_read value => comma_read.bind ((reads_expect ')' _ _).bind (Reads.pure value _))
  cases h with
  | @last _ cs gap h hgap =>
    refine ⟨.inr ((each cs h).opens.append _), fun {rest} _ => ?_⟩
    obtain ⟨result, come, left, hleft, taken⟩ := (each cs h).gives hgap close.1 rest
    refine ⟨result, come, ?_⟩
    rw [List.append_assoc, ← Option.bind_fun_some result]
    exact taken.bind fun value _ => ended (reads_no_comma_gap hleft close.1 close.2 rest) value
  | @cons _ _ cs before behind _ h hb hb' others =>
    cases others
    refine ⟨.inr ((each cs h).opens.append _), fun {rest} _ => ?_⟩
    obtain ⟨result, come, left, hleft, taken⟩ := (each cs h).gives hb (c := ',') (by decide) (behind ++ ')' :: rest)
    refine ⟨result, come, ?_⟩
    rw [List.append_nil, List.append_assoc, List.append_assoc, List.cons_append, ← Option.bind_fun_some result]
    exact taken.bind fun value _ => ended (reads_comma_gaps hleft hb' (starts_mark close.1 rest)) value

/-- So does what is read up to the closing parenthesis. -/
theorem fills_upTo (opens : cs = [] ∨ Opens cs)
    (gives : ∀ {rest}, Follows rest → ∃ result, outcome result ∧ Gives r (cs ++ ')' :: rest) result (')' :: rest)) :
    Fills r cs outcome := by
  refine ⟨opens, fun {rest} behind => ?_⟩
  obtain ⟨result, come, taken⟩ := gives behind
  refine ⟨result, come, ?_⟩
  rw [← Option.bind_fun_some result]
  exact taken.bind fun value _ => (reads_no_comma_close rest).bind ((reads_expect ')' _ rest).bind (Reads.pure value rest))

/-- A value that is changed after it was read. -/
theorem Fills.map {other : Option β → Prop} (f : α → β) (h : Fills r cs outcome) (imp : ∀ result, outcome result → other (result.map f)) :
    Fills (do return f (← r)) cs other := by
  refine ⟨h.opens, fun {rest} behind => ?_⟩
  obtain ⟨result, come, taken⟩ := h.gives behind
  have mapped := taken.map f
  refine ⟨result.map f, imp result come, ?_⟩
  simp only [closed, bind_assoc, pure_bind] at mapped ⊢
  exact mapped

/-- What stands in parentheses is taken with the closing one. -/
theorem gives_enclosed {inside : List Char → Prop} (each : ∀ cs, inside cs → Fills r cs outcome) {text : List Char}
    (h : Enclosed inside text) (behind : Follows rest) :
    ∃ opened result, text ++ rest = '(' :: opened ∧ outcome result ∧
      Gives (do
        spaces
        closed r) opened result rest := by
  obtain ⟨hgap, h⟩ := h
  rename_i gap cs
  obtain ⟨opens, gives⟩ := each cs h
  obtain ⟨result, come, taken⟩ := gives behind
  have starts : Starts (cs ++ ')' :: rest) := by
    rcases opens with rfl | opens
    · exact starts_close rest
    · exact (opens.append _).starts
  refine ⟨gap ++ (cs ++ ')' :: rest), result, ?_, come, (reads_gap hgap starts).bind_gives taken⟩
  simp only [List.cons_append, List.append_assoc, List.nil_append]

/-- A value that may be missing is taken if it is there. -/
theorem gives_optional_some {e : Extensions} (contents : Bool → Reader α) {inside : List Char → Prop}
    (each : ∀ cs, inside cs → Fills (contents e.bareVariants) cs outcome) {gap text : List Char} (hgap : Gap gap)
    (h : Enclosed inside text) (behind : Follows rest) :
    ∃ result, outcome result ∧ Gives (optionalWith e contents) ("Some".toList ++ (gap ++ text) ++ rest) (result.map some) rest := by
  obtain ⟨opened, result, text, come, taken⟩ := gives_enclosed each h behind
  have ends : Ends (gap ++ '(' :: opened) := ends_gap hgap (ends_cons (by simp) opened)
  have present := taken.map some
  simp only [closed, bind_assoc, pure_bind] at present
  refine ⟨result, come, ?_⟩
  rw [List.append_assoc, List.append_assoc, text]
  refine (reads_consumeWord_other rfl).bind_gives ((reads_consumeWord ends).bind_gives ?_)
  exact (reads_gap hgap (starts_open opened)).bind_gives ((reads_consume ['('] opened).bind_gives present)

end Reader

end Notation

end DebugConsole
