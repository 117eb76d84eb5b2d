import DebugConsole.Proofs.Notation.Reads
import DebugConsole.Proofs.Number.Numeral

/-!
# Gaps

Between any two parts of a text there may be spaces and comments, a `Gap`. Whatever the gap, it is skipped (`Reader.reads_gap`), and so
are the two gaps around a comma (`Reader.reads_comma_gaps`).

A value is read in a text that goes on behind it, perhaps after a gap, with one of few characters: `Reader.Yields` says what a reader
comes to in a piece of text wherever it stands like that. The reader may or may not take the gap.
-/

namespace DebugConsole

namespace Notation

/-- What follows the end of a comment does not matter for where it ends. -/
theorem afterComment_append {depth : Nat} (inside : 0 < depth) {words rest : List Char} (h : afterComment depth words = some rest)
    (more : List Char) : afterComment depth (words ++ more) = some (rest ++ more) := by
  fun_induction afterComment depth words with
  | case1 => exact absurd inside (Nat.lt_irrefl 0)
  | case2 => exact absurd h (by simp)
  | case3 depth cs ih =>
    simp only [List.cons_append, afterComment]
    exact ih (by omega) h
  | case4 depth cs ih =>
    simp only [List.cons_append, afterComment]
    cases depth with
    | zero =>
      simp only [afterComment, Option.some.injEq] at h ⊢
      rw [h]
    | succ depth => exact ih (by omega) h
  | case5 depth c cs opens closes ih =>
    -- two characters decide what comes next, and there is a second one, for the comment is not closed yet
    have next : afterComment (depth + 1) (c :: (cs ++ more)) = afterComment (depth + 1) (cs ++ more) := by
      cases cs with
      | nil => exact absurd h (by simp [afterComment])
      | cons d ds =>
        rw [afterComment]
        · rintro rest rfl same
          exact opens ds rfl (by rw [(List.cons.inj same).1])
        · rintro rest rfl same
          exact closes ds rfl (by rw [(List.cons.inj same).1])
    rw [List.cons_append, next]
    exact ih (by omega) h

/-- Spaces and comments. -/
inductive Gap : List Char → Prop
  | nil : Gap []
  | space {c : Char} {cs : List Char} (h : isSpace c = true) (more : Gap cs) : Gap (c :: cs)
  /-- A comment that ends with its line. -/
  | line {words cs : List Char} (h : '\n' ∉ words) (more : Gap cs) : Gap ('/' :: '/' :: (words ++ '\n' :: cs))
  /-- A comment that ends where it is closed, with other comments inside. -/
  | block {words cs : List Char} (h : afterComment 1 words = some []) (more : Gap cs) : Gap ('/' :: '*' :: (words ++ cs))

/-- What may stand at the end of a text: the last comment may end with it. -/
inductive LastGap : List Char → Prop
  | gap {cs : List Char} (h : Gap cs) : LastGap cs
  | line {cs words : List Char} (h : Gap cs) (none : '\n' ∉ words) : LastGap (cs ++ '/' :: '/' :: words)

/-- Two gaps make one. -/
theorem Gap.append {a b : List Char} (ha : Gap a) (hb : Gap b) : Gap (a ++ b) := by
  induction ha with
  | nil => exact hb
  | space h _ ih => exact .space h ih
  | @line words cs h _ ih =>
    have text : '/' :: '/' :: (words ++ '\n' :: cs) ++ b = '/' :: '/' :: (words ++ '\n' :: (cs ++ b)) := by simp
    exact text ▸ .line h ih
  | @block words cs h _ ih =>
    have text : '/' :: '*' :: (words ++ cs) ++ b = '/' :: '*' :: (words ++ (cs ++ b)) := by simp
    exact text ▸ .block h ih

theorem gap_singleton {c : Char} (h : isSpace c = true) : Gap [c] :=
  .space h .nil

namespace Reader

variable {α β : Type} {cs rest gap : List Char}

/-! ## Gaps are skipped -/

theorem skipSpaces_line {cs rest : List Char} (h : cs.dropWhile isSpace = '/' :: '/' :: rest) :
    skipSpaces cs = skipSpaces (rest.dropWhile (· != '\n')) := by
  rw [skipSpaces]
  split <;> simp_all

theorem skipSpaces_block {cs words rest : List Char} (h : cs.dropWhile isSpace = '/' :: '*' :: words)
    (closed : afterComment 1 words = some rest) : skipSpaces cs = skipSpaces rest := by
  rw [skipSpaces]
  split <;> simp_all
  split <;> simp_all

/-- It is known where skipping ends. -/
theorem reads_spaces_iff : Reads spaces cs () rest ↔ ∃ before, skipSpaces cs = .ok ⟨before, rest⟩ := by
  unfold Reads spaces
  constructor
  · intro h
    obtain ⟨after, skipped⟩ := h []
    cases found : skipSpaces cs with
    | error stop => rw [found] at skipped; exact absurd skipped (by simp [Except.map])
    | ok cursor =>
      rw [found] at skipped
      exact ⟨after, by simpa [Except.map] using skipped⟩
  · rintro ⟨before, skipped⟩ _
    exact ⟨before, by rw [skipped]; rfl⟩

/-- One more space in front makes no difference. -/
theorem reads_spaces_cons {c : Char} (space : isSpace c = true) (h : Reads spaces cs () rest) : Reads spaces (c :: cs) () rest := by
  rw [reads_spaces_iff] at h ⊢
  obtain ⟨before, h⟩ := h
  have same : (c :: cs).dropWhile isSpace = cs.dropWhile isSpace := List.dropWhile_cons_of_pos space
  rw [skipSpaces] at h
  split at h
  · next found => exact ⟨before, by rwa [skipSpaces_line (same.trans found)]⟩
  · next found =>
    split at h
    · next closed => exact ⟨before, by rwa [skipSpaces_block (same.trans found) closed]⟩
    · exact absurd h (by simp)
  · exact absurd h (by simp)
  · exact absurd h (by simp)
  · next line block other alone =>
    refine ⟨c :: cs, ?_⟩
    rw [skipSpaces]
    split
    · next found => exact absurd (same.symm.trans found) (line _)
    · next found => exact absurd (same.symm.trans found) (block _)
    · next found => exact absurd (same.symm.trans found) (other _ _)
    · next found => exact absurd (same.symm.trans found) alone
    · simp only [Except.ok.injEq, Cursor.mk.injEq, true_and] at h ⊢
      rw [same, h.2]

theorem ne_newline {words : List Char} (h : '\n' ∉ words) : ∀ c ∈ words, (c != '\n') = true := by
  intro c member
  rw [bne_iff_ne]
  rintro rfl
  exact h member

/-- A gap is skipped with the spaces and comments behind it. -/
theorem reads_gap_append (h : Gap gap) (behind : Reads spaces cs () rest) : Reads spaces (gap ++ cs) () rest := by
  induction h with
  | nil => exact behind
  | space h _ ih => exact reads_spaces_cons h ih
  | @line words more h _ ih =>
    have starts : ('/' :: '/' :: (words ++ '\n' :: more) ++ cs).dropWhile isSpace =
        '/' :: '/' :: (words ++ '\n' :: (more ++ cs)) := by
      rw [List.cons_append, List.cons_append, List.append_assoc]
      exact List.dropWhile_cons_of_neg (by decide)
    have ends : (words ++ '\n' :: (more ++ cs)).dropWhile (· != '\n') = '\n' :: (more ++ cs) :=
      dropWhile_stop (ne_newline h) (by simp)
    have next := reads_spaces_cons (c := '\n') (by decide) ih
    rw [reads_spaces_iff] at next ⊢
    rwa [skipSpaces_line starts, ends]
  | @block words more h _ ih =>
    have starts : ('/' :: '*' :: (words ++ more) ++ cs).dropWhile isSpace = '/' :: '*' :: (words ++ (more ++ cs)) := by
      rw [List.cons_append, List.cons_append, List.append_assoc]
      exact List.dropWhile_cons_of_neg (by decide)
    have closed := afterComment_append Nat.one_pos h (more ++ cs)
    rw [reads_spaces_iff] at ih ⊢
    rwa [skipSpaces_block starts closed]

/-- A gap is skipped up to where something else starts. -/
theorem reads_gap (h : Gap gap) (starts : Starts cs) : Reads spaces (gap ++ cs) () cs :=
  reads_gap_append h (reads_no_spaces starts)

/-- At the end of a text nothing is left of a gap. -/
theorem reads_lastGap (h : LastGap gap) : Reads spaces gap () [] := by
  cases h with
  | gap h =>
    have all := reads_gap_append h reads_spaces_nil
    rwa [List.append_nil] at all
  | @line cs words h none =>
    refine reads_gap_append h ?_
    have starts : ('/' :: '/' :: words).dropWhile isSpace = '/' :: '/' :: words := List.dropWhile_cons_of_neg (by decide)
    have ends : (words ++ []).dropWhile (· != '\n') = [] := dropWhile_stop (ne_newline none) (by simp)
    rw [List.append_nil] at ends
    have left := reads_spaces_nil
    rw [reads_spaces_iff] at left ⊢
    rwa [skipSpaces_line starts, ends]

/-- A comma is taken with the gaps around it. -/
theorem reads_comma_gaps {before behind : List Char} (hb : Gap before) (hb' : Gap behind) (starts : Starts cs) :
    Reads comma (before ++ ',' :: (behind ++ cs)) true cs := by
  refine (reads_gap hb ⟨',', behind ++ cs, rfl, by decide, by decide⟩).bind ?_
  refine (reads_consume [','] (behind ++ cs)).bind ?_
  exact (reads_gap hb' starts).bind (Reads.pure true cs)

/-! ## What follows a value -/

/-- The characters one of which follows a value, perhaps behind a gap. -/
def marks : List Char := [',', ':', ')', ']', '}']

/-- The characters with which that starts. -/
def edges : List Char := '/' :: spaceCharacters ++ marks

/-- No name holds one of these. -/
theorem isRawPart_edge {c : Char} (h : c ∈ edges) : isRawPart c = false := by
  have apart : ∀ c ∈ marks, isRawPart c = false := by simp [marks, isRawPart]
  exact (List.mem_append.1 h).elim (isRawPart_space c) (apart c)

/-- A gap starts with a space or a slash, if there is one. -/
theorem gap_head (h : Gap gap) : gap = [] ∨ ∃ c more, gap = c :: more ∧ c ∈ '/' :: spaceCharacters := by
  cases h with
  | nil => exact Or.inl rfl
  | @space c _ space _ => exact Or.inr ⟨c, _, rfl, List.mem_cons_of_mem _ ((isSpace_iff c).1 space)⟩
  | line _ _ => exact Or.inr ⟨'/', _, rfl, List.mem_cons_self⟩
  | block _ _ => exact Or.inr ⟨'/', _, rfl, List.mem_cons_self⟩

/-- A word ends in front of a gap. -/
theorem ends_gap (h : Gap gap) (ends : Ends rest) : Ends (gap ++ rest) := by
  rcases gap_head h with rfl | ⟨c, more, rfl, space⟩
  · exact ends
  · exact ends_cons (isIdentifierPart_of_not_isRawPart (isRawPart_space c space)) _

/-- What follows a value: a gap and then one of the characters. -/
structure Follows (cs : List Char) : Prop where
  exists_mark : ∃ gap c more, cs = gap ++ c :: more ∧ Gap gap ∧ c ∈ marks

theorem follows {c : Char} (h : Gap gap) (mark : c ∈ marks) (more : List Char) : Follows (gap ++ c :: more) :=
  ⟨gap, c, more, rfl, h, mark⟩

/-- What follows a value starts with a space, a slash or the character itself. -/
theorem Follows.head (h : Follows cs) : ∃ c more, cs = c :: more ∧ c ∈ edges := by
  obtain ⟨gap, c, more, rfl, hgap, mark⟩ := h.exists_mark
  rcases gap_head hgap with rfl | ⟨d, others, rfl, edge⟩
  · exact ⟨c, more, rfl, List.mem_append_right _ mark⟩
  · exact ⟨d, others ++ c :: more, rfl, List.mem_append_left _ edge⟩

/-- It starts with no character of a kind that none of these is of. -/
theorem Follows.head_not (h : Follows cs) {p : Char → Bool} (outside : edges.any p = false) : ∀ c ∈ cs.head?, p c = false := by
  obtain ⟨c, more, rfl, edge⟩ := h.head
  intro d hd
  obtain rfl : c = d := by simpa using hd
  exact Bool.eq_false_iff.2 (List.any_eq_false.1 outside c edge)

theorem Follows.ends (h : Follows cs) : Ends cs := by
  obtain ⟨c, more, rfl, edge⟩ := h.head
  exact ends_cons (isIdentifierPart_of_not_isRawPart (isRawPart_edge edge)) more

/-- Other parts start with none of these characters. -/
def Opens (cs : List Char) : Prop :=
  ∃ c rest, cs = c :: rest ∧ c ∉ edges

theorem opens_cons {c : Char} (h : c ∉ edges) (rest : List Char) : Opens (c :: rest) :=
  ⟨c, rest, rfl, h⟩

theorem Opens.append (h : Opens cs) (more : List Char) : Opens (cs ++ more) := by
  obtain ⟨c, rest, rfl, inside⟩ := h
  exact ⟨c, rest ++ more, rfl, inside⟩

/-- Less is left behind such a part than in front of it. -/
theorem Opens.length_lt (h : Opens cs) (front gap rest : List Char) :
    rest.length < (front ++ (cs ++ (gap ++ rest))).length := by
  obtain ⟨c, more, rfl, -⟩ := h
  simp only [List.length_append, List.length_cons]
  omega

theorem Opens.starts (h : Opens cs) : Starts cs := by
  obtain ⟨c, rest, rfl, inside⟩ := h
  refine ⟨c, rest, rfl, ?_, ?_⟩
  · rw [Bool.eq_false_iff]
    exact fun space => inside (List.mem_append_left _ (List.mem_cons_of_mem _ ((isSpace_iff c).1 space)))
  · rintro rfl
    exact inside List.mem_cons_self

theorem Opens.head_ne (h : Opens cs) {close : Char} (mark : close ∈ marks) : cs.head? ≠ some close := by
  obtain ⟨c, rest, rfl, inside⟩ := h
  intro same
  obtain rfl : c = close := by simpa using same
  exact inside (List.mem_append_right _ mark)

/-- A mark is no space. -/
theorem starts_mark {c : Char} (mark : c ∈ marks) (more : List Char) : Starts (c :: more) := by
  have all : ∀ c ∈ marks, isSpace c = false ∧ c ≠ '/' := by decide
  exact ⟨c, more, rfl, all c mark⟩

/-- There is no comma to take in front of another mark. -/
theorem reads_no_comma_gap (h : Gap gap) {c : Char} (mark : c ∈ marks) (other : c ≠ ',') (more : List Char) :
    Reads comma (gap ++ c :: more) false (c :: more) := by
  have differs : [','].isPrefixOf (c :: more) = false := isPrefixOf_eq_false_of_head (by simpa using other) []
  refine (reads_gap h (starts_mark mark more)).bind ?_
  exact (reads_consume_other differs).bind (Reads.pure false _)

/-! ## Values in their place -/

/-- A reader stops in a text. -/
def Stops (r : Reader α) (cs : List Char) : Prop :=
  ∀ before, ∃ stop, r ⟨before, cs⟩ = .error stop

theorem stops_fail (fault : Fault) (cs : List Char) : Stops (fail (α := α) fault) cs :=
  fun before => ⟨⟨fault, ⟨before, cs⟩⟩, rfl⟩

/-- A reader that stops is not followed by another one. -/
theorem Stops.bind {r : Reader α} (h : Stops r cs) (f : α → Reader β) : Stops (r >>= f) cs := by
  intro before
  obtain ⟨stop, hr⟩ := h before
  refine ⟨stop, ?_⟩
  change (r ⟨before, cs⟩ >>= fun x => f x.1 x.2) = _
  rw [hr]
  rfl

theorem Reads.bind_stops {r : Reader α} {f : α → Reader β} {a : α} (first : Reads r cs a rest) (second : Stops (f a) rest) :
    Stops (r >>= f) cs := by
  intro before
  obtain ⟨between, hr⟩ := first before
  obtain ⟨stop, hf⟩ := second between
  refine ⟨stop, ?_⟩
  change (r ⟨before, cs⟩ >>= fun x => f x.1 x.2) = _
  rw [hr]
  exact hf

/-- What a reader comes to in a text: it takes a value from its front, or it stops. -/
def Gives (r : Reader α) (cs : List Char) : Option α → List Char → Prop
  | some value, rest => Reads r cs value rest
  | none, _ => Stops r cs

/-- What comes to something still does behind what is read first. -/
theorem Reads.bind_gives {r : Reader α} {f : α → Reader β} {a : α} {mid : List Char} {result : Option β} (first : Reads r cs a mid)
    (second : Gives (f a) mid result rest) : Gives (r >>= f) cs result rest := by
  cases result with
  | none => exact first.bind_stops second
  | some b => exact Reads.bind first second

/-- Two readers one after the other come to something if both do. -/
theorem Gives.bind {r : Reader α} {f : α → Reader β} {mid : List Char} {result : Option α} {next : α → Option β}
    (first : Gives r cs result mid) (second : ∀ a, result = some a → Gives (f a) mid (next a) rest) :
    Gives (r >>= f) cs (result.bind next) rest := by
  cases result with
  | none => exact Stops.bind first f
  | some a => exact Reads.bind_gives first (second a rfl)

/-- A value that is changed after it was read. -/
theorem Gives.map {r : Reader α} {result : Option α} (f : α → β) (h : Gives r cs result rest) :
    Gives (do return f (← r)) cs (result.map f) rest := by
  rw [Option.map_eq_bind]
  exact h.bind fun a _ => Reads.pure (f a) rest

/-- What a reader comes to in a piece of text in front of whatever follows a value: it takes all of the piece, perhaps with the gap behind
it, or it stops in it. Which of them may depend on what follows. -/
structure Yields (r : Reader α) (cs : List Char) (outcome : Option α → Prop) : Prop where
  opens : Opens cs
  gives : ∀ {gap}, Gap gap → ∀ {c}, c ∈ marks → ∀ more, ∃ result, outcome result ∧
    ∃ left, Gap left ∧ Gives r (cs ++ (gap ++ c :: more)) result (left ++ c :: more)

section

variable {r : Reader α} {outcome : Option α → Prop}

/-- It does so if it leaves the gap. -/
theorem yields (opens : Opens cs) (gives : ∀ {rest}, Follows rest → ∃ result, outcome result ∧ Gives r (cs ++ rest) result rest) :
    Yields r cs outcome where
  opens := opens
  gives := by
    intro gap h c mark more
    obtain ⟨result, come, taken⟩ := gives (follows h mark more)
    exact ⟨result, come, gap, h, taken⟩

theorem Yields.imp {other : Option α → Prop} (h : Yields r cs outcome) (imp : ∀ result, outcome result → other result) :
    Yields r cs other where
  opens := h.opens
  gives := by
    intro gap hgap c mark more
    obtain ⟨result, come, taken⟩ := h.gives hgap mark more
    exact ⟨result, imp result come, taken⟩

/-- A value that is changed after it was read. -/
theorem Yields.map {other : Option β → Prop} (f : α → β) (h : Yields r cs outcome)
    (imp : ∀ result, outcome result → other (result.map f)) : Yields (do return f (← r)) cs other where
  opens := h.opens
  gives := by
    intro gap hgap c mark more
    obtain ⟨result, come, left, hleft, taken⟩ := h.gives hgap mark more
    exact ⟨result.map f, imp result come, left, hleft, taken.map f⟩

/-- A reader takes a value wherever it stands. -/
def Takes (r : Reader α) (cs : List Char) (a : α) : Prop :=
  Yields r cs (· = some a)

theorem takes {a : α} (opens : Opens cs) (reads : ∀ {rest}, Follows rest → Reads r (cs ++ rest) a rest) : Takes r cs a :=
  yields opens fun behind => ⟨some a, rfl, reads behind⟩

theorem Takes.map {a : α} (f : α → β) (h : Takes r cs a) : Takes (do return f (← r)) cs (f a) :=
  Yields.map f h fun _ same => congrArg (Option.map f) same

end

end Reader

end Notation

end DebugConsole
