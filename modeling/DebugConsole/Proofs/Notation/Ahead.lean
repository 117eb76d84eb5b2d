import DebugConsole.Proofs.Notation.Unknown

/-!
# Looking ahead

Where values are written bare, the reader looks ahead in the parentheses of an optional value to tell one value from several. It takes
one character after the other, counts brackets and goes over texts and characters as a whole. It misses a comment right behind one of
these, and a byte by its number, whose quotes it takes for those of other characters. Where neither is there (`Clear`), it is right about
all values: so a value is `sure` without more ado (`Value.sure`).
-/

namespace DebugConsole

namespace Notation

/-- The characters that tell the reader something when it looks ahead. -/
def telling : List Char :=
  ['\'', '"', '/', ',', '(', ')', '[', ']', '{', '}']

/-- The characters that stand between the parts of a value. -/
def separators : List Char :=
  ['.', '=', '(', '[', '{'] ++ Reader.marks

/-- A text without comments and without bytes by their numbers. -/
structure Clear (cs : List Char) : Prop where
  slash : '/' ∉ cs
  byte : ¬"b'\\x".toList <:+: cs

instance : DecidablePred Clear :=
  fun _ => decidable_of_iff (_ ∧ _) ⟨fun h => ⟨h.1, h.2⟩, fun h => ⟨h.slash, h.byte⟩⟩

section

variable {cs vs gap : List Char} {c : Char}

theorem Clear.part (h : Clear cs) (part : vs <:+: cs) : Clear vs :=
  ⟨fun slash => h.slash (part.subset slash), fun byte => h.byte (byte.trans part)⟩

/-- Without comments there are only spaces between the parts of a text. -/
theorem Clear.spaces (h : Clear gap) (hgap : Gap gap) : ∀ c ∈ gap, isSpace c = true := by
  induction hgap with
  | nil => exact fun _ none => absurd none List.not_mem_nil
  | @space d more space _ ih =>
    intro c hc
    rcases List.mem_cons.1 hc with rfl | hc
    · exact space
    · exact ih (h.part (List.suffix_cons d more).isInfix) c hc
  | line _ _ => exact absurd List.mem_cons_self h.slash
  | block _ _ => exact absurd List.mem_cons_self h.slash

/-- A character with a property that none of the telling ones has. -/
theorem not_telling {p : Char → Bool} (outside : telling.any p = false) (h : p c = true) : c ∉ telling :=
  fun among => List.any_eq_false.1 outside c among h

theorem not_telling_name {name : String} (h : Name name cs) : ∀ c ∈ cs, c ∉ telling := by
  have outside : telling.any isRawPart = false := by decide +kernel
  have part : ∀ c, isRawPart c = true → c ∉ telling := fun c => not_telling outside
  cases h with
  | plain h => exact fun c hc => part c (isRawPart_of_isIdentifierPart (List.all_eq_true.1 h.2 c hc))
  | raw _ h =>
    intro c hc
    rcases List.mem_cons.1 hc with rfl | hc
    · decide
    rcases List.mem_cons.1 hc with rfl | hc
    · decide
    exact part c (h c hc)

theorem not_telling_sign {negative : Bool} (h : Sign negative cs) : ∀ c ∈ cs, c ∉ telling := by
  cases h <;> decide

/-- A number is a byte, or it holds no telling characters. -/
theorem AnyNumber.not_telling (h : AnyNumber cs) : ByteLiteral cs ∨ ∀ c ∈ cs, c ∉ telling := by
  have append : ∀ {a b : List Char}, (∀ c ∈ a, c ∉ telling) → (∀ c ∈ b, c ∉ telling) → ∀ c ∈ a ++ b, c ∉ telling :=
    fun ha hb c hc => (List.mem_append.1 hc).elim (ha c) (hb c)
  have words : ∀ w ∈ numberWords, ∀ c ∈ w.1.toList, c ∉ telling := by decide
  have kinds : ∀ kind ∈ Reader.integerSuffixes, ∀ c ∈ kind.1.toList, c ∉ telling := by decide
  have suffixes : ∀ suffix : Suffix, ∀ c ∈ suffix.word.toList, c ∉ telling := by rintro (_ | _ | _) <;> decide
  cases h with
  | byte h => exact .inl h
  | number h =>
    cases h with
    | word member => exact .inr (append (words _ member) (suffixes _))
    | decimal h =>
      have numeral : telling.any isNumeralPart = false := by decide
      exact .inr (append (fun c hc => Notation.not_telling numeral (h.part c hc)) (suffixes _))
  | @integer _ _ digits h kind member _ =>
    have digit : telling.any (fun c => c.isDigit || c == '_') = false := by decide
    exact .inr (append (not_telling_sign h.signed) (append (fun c hc => Notation.not_telling digit (h.all c hc)) (kinds kind member)))
  | @based _ _ digits signed mark base h kind member _ =>
    have digit : telling.any (fun c => c == '_' || (hexValue? c).isSome) = false := by decide
    have marks : ∀ m ∈ [('b', 2), ('o', 8), ('x', 16)], m.1 ∉ telling := by decide
    refine .inr (append (not_telling_sign signed) fun c hc => ?_)
    rcases List.mem_cons.1 hc with rfl | hc
    · decide
    rcases List.mem_cons.1 hc with rfl | hc
    · exact marks _ h.based
    refine append (fun c hc => Notation.not_telling digit ?_) (fun c hc => ?_) c hc
    · rcases h.all c hc with rfl | ⟨value, -, found⟩
      · rfl
      · rw [found, Option.isSome_some, Bool.or_true]
    · cases kind with
      | none => exact absurd hc List.not_mem_nil
      | some kind => exact kinds kind (member kind rfl) c hc

/-- An escape means the same everywhere unless it is a number. -/
theorem escape?_congr (no_number : cs.head? ≠ some 'x') (place place' : EscapePlace) : escape? place cs = escape? place' cs := by
  unfold escape?
  split <;> first | rfl | exact absurd rfl no_number

/-- A byte that is not written by its number is a letter in front of a character. -/
theorem ByteLiteral.character (h : ByteLiteral cs) (clear : Clear cs) : ∃ more, cs = 'b' :: more ∧ CharacterLiteral more := by
  cases h with
  | plain h _ => exact ⟨_, rfl, .plain h⟩
  | @escaped c cs h no_code_point =>
    have no_number : cs.head? ≠ some 'x' := by
      intro number
      obtain ⟨more, rfl⟩ := List.head?_eq_some_iff.1 number
      exact clear.byte ⟨[], more ++ ['\''], rfl⟩
    exact ⟨_, rfl, .escaped ((escape?_congr no_number .character .bytes).trans h)⟩

end

namespace Reader

variable {cs vs rest : List Char} {depth : Nat} {answer : Bool}

/-! ## Steps -/

/-- Goes over the texts and characters that come next. -/
def lookLiterals : Reader Unit := do
  attempt character
  attempt text
  attempt byteText

/-- Takes the next character. -/
def lookStep (depth : Nat) : Reader (Option Ahead) := do
  let c ← next
  if c = '(' || c = '[' || c = '{' then return some (depth + 1, none)
  else if c = ')' || c = ']' || c = '}' then return some (depth - 1, if depth = 0 then some false else none)
  else if c = ',' && depth = 0 then
    spaces
    return some (depth, some ((← peek?) != some ')'))
  else return some (depth, none)

theorem lookRound_eq (depth : Nat) : lookRound (depth, none) = (do
    spaces
    lookLiterals
    lookStep depth) := by
  simp only [lookRound, lookLiterals, lookStep, bind_assoc]
  rfl

/-- What the reader answers where some brackets are open, behind any gap. -/
def Answers (depth : Nat) (cs : List Char) (answer : Bool) : Prop :=
  ∀ gap, Gap gap → ∃ last rest, Reads (iterate lookRound (depth, none)) (gap ++ cs) (last, some answer) rest

/-- What it answers if it takes the next character for itself. -/
inductive Goes (depth : Nat) (cs : List Char) (answer : Bool) : Prop
  | ends (left : Nat) {mid : List Char} (h : Reads (lookStep depth) cs (some (left, some answer)) mid) (shorter : mid.length < cs.length)
  | goes_on (left : Nat) {mid : List Char} (h : Reads (lookStep depth) cs (some (left, none)) mid) (shorter : mid.length < cs.length)
    (others : Answers left mid answer)

/-- A gap makes no difference. -/
theorem Answers.gap {gap : List Char} (hgap : Gap gap) (h : Answers depth cs answer) : Answers depth (gap ++ cs) answer := by
  intro front hfront
  rw [← List.append_assoc]
  exact h (front ++ gap) (hfront.append hgap)

theorem Answers.space {c : Char} (space : isSpace c = true) (h : Answers depth cs answer) : Answers depth (c :: cs) answer :=
  h.gap (gap_singleton space)

/-- The reader goes over texts and characters and then takes the next character. -/
theorem answers_of_goes (vs : List Char) (starts : Starts (vs ++ cs)) (literals : Reads lookLiterals (vs ++ cs) () cs)
    (h : Goes depth cs answer) : Answers depth (vs ++ cs) answer := by
  intro gap hgap
  have less : ∀ {mid : List Char}, mid.length < cs.length → mid.length < (gap ++ (vs ++ cs)).length := by
    intro mid shorter
    simp only [List.length_append]
    omega
  have round : ∀ {next mid}, Reads (lookStep depth) cs next mid → Reads (lookRound (depth, none)) (gap ++ (vs ++ cs)) next mid := by
    intro next mid step
    rw [lookRound_eq]
    exact (reads_gap hgap starts).bind (literals.bind step)
  cases h with
  | @ends left mid step shorter =>
    have stopped : Reads (lookRound (left, some answer)) mid none mid := Reads.pure none mid
    exact ⟨left, mid, reads_iterate_step (round step) (less shorter) (reads_iterate_stop stopped)⟩
  | goes_on left step shorter others =>
    obtain ⟨last, rest, found⟩ := others [] .nil
    exact ⟨last, rest, reads_iterate_step (round step) (less shorter) found⟩

/-- At an opening bracket there is one more level. -/
theorem goes_opening {c : Char} (among : c ∈ ['(', '[', '{']) (h : Answers (depth + 1) cs answer) : Goes depth (c :: cs) answer := by
  refine .goes_on (depth + 1) ((reads_next c cs).bind ?_) (Nat.lt_succ_self _) h
  rw [if_pos (by simpa [or_assoc] using among)]
  exact Reads.pure _ cs

/-- At a closing one there is one level less. -/
theorem goes_closing {c : Char} (among : c ∈ [')', ']', '}']) (h : Answers depth cs answer) : Goes (depth + 1) (c :: cs) answer := by
  have closing : ∀ c ∈ [')', ']', '}'], (c = '(' || c = '[' || c = '{') = false ∧ (c = ')' || c = ']' || c = '}') = true := by decide
  refine .goes_on depth ((reads_next c cs).bind ?_) (Nat.lt_succ_self _) h
  rw [(closing c among).1, (closing c among).2]
  exact Reads.pure _ cs

/-- The reader comes to an end at the parenthesis that closes everything. -/
theorem goes_end (cs : List Char) : Goes 0 (')' :: cs) false := by
  refine .ends 0 ((reads_next ')' cs).bind ?_) (Nat.lt_succ_self _)
  exact Reads.pure _ cs

/-- So it does at a comma outside of all brackets, and there it looks what comes next. -/
theorem goes_comma {gap : List Char} (hgap : Gap gap) (starts : Starts cs) :
    Goes 0 (',' :: (gap ++ cs)) (cs.head? != some ')') := by
  have step : Reads (lookStep 0) (',' :: (gap ++ cs)) (some (0, some (cs.head? != some ')'))) cs :=
    (reads_next ',' _).bind ((reads_gap hgap starts).bind ((reads_peek cs).bind (Reads.pure _ cs)))
  refine .ends 0 step ?_
  simp only [List.length_cons, List.length_append]
  omega

/-- It goes on at a comma inside of brackets, and at any other character. -/
theorem goes_comma_inside (h : Answers (depth + 1) cs answer) : Goes (depth + 1) (',' :: cs) answer := by
  refine .goes_on (depth + 1) ((reads_next ',' cs).bind ?_) (Nat.lt_succ_self _) h
  exact Reads.pure _ cs

theorem goes_other {c : Char} (other : c ∉ telling) (h : Answers depth cs answer) : Goes depth (c :: cs) answer := by
  have differs : ∀ d ∈ telling, c ≠ d := by
    rintro d hd rfl
    exact other hd
  refine .goes_on depth ((reads_next c cs).bind ?_) (Nat.lt_succ_self _) h
  simp only [telling, List.mem_cons, List.not_mem_nil, or_false, forall_eq_or_imp, forall_eq] at differs
  simp only [differs, decide_false, Bool.or_false, Bool.false_and, Bool.false_eq_true, if_false]
  exact Reads.pure _ cs

/-! ## Texts and characters -/

theorem reads_attempt {α : Type} {r : Reader α} {a : α} (h : Reads r cs a rest) : Reads (attempt r) cs () rest := by
  intro before
  obtain ⟨after, found⟩ := h before
  exact ⟨after, by rw [attempt, found]⟩

theorem reads_attempt_stops {α : Type} {r : Reader α} (h : Stops r cs) : Reads (attempt r) cs () cs := by
  intro before
  obtain ⟨stop, failed⟩ := h before
  exact ⟨before, by rw [attempt, failed]⟩

/-- What follows in a text if nothing there belongs to another text. -/
def Quiet (cs : List Char) : Prop :=
  ∀ c ∈ cs.head?, c ∉ ['"', '#', 'r', 'b']

theorem quiet_cons {c : Char} (h : c ∉ ['"', '#', 'r', 'b']) (cs : List Char) : Quiet (c :: cs) := by
  intro d hd
  rwa [← Option.some.inj hd]

theorem stops_character (h : cs.head? ≠ some '\'') : Stops character cs :=
  Stops.bind (stops_expect h _) _

/-- A text starts with a quote, or with a letter that a quote follows behind the number signs. -/
theorem stops_textIn (place : EscapePlace) (quote : cs.head? ≠ some '"')
    (raw : ∀ more, cs = 'r' :: more → (more.dropWhile (· == '#')).head? ≠ some '"') : Stops (textIn place) cs := by
  refine (reads_consume_other (isPrefixOf_eq_false_of_head quote [])).bind_stops ?_
  rw [if_neg Bool.false_ne_true]
  by_cases marked : cs.head? = some 'r'
  · obtain ⟨more, rfl⟩ := List.head?_eq_some_iff.1 marked
    refine (reads_consume ['r'] more).bind_stops ?_
    have signs : Reads (takeWhile (· == '#')) more (more.takeWhile (· == '#')) (more.dropWhile (· == '#')) := by
      have stop : ∀ c ∈ (more.dropWhile (· == '#')).head?, (c == '#') = false := by
        intro c hc
        have outside := List.head?_dropWhile_not (· == '#') more
        rw [hc] at outside
        exact outside
      have all : ∀ c ∈ more.takeWhile (· == '#'), (c == '#') = true := List.all_eq_true.1 List.all_takeWhile
      have taken := reads_takeWhile all stop
      rwa [List.takeWhile_append_dropWhile] at taken
    rw [if_pos rfl]
    exact signs.bind_stops (Stops.bind (stops_expect (raw more rfl) _) _)
  · refine (reads_consume_other (isPrefixOf_eq_false_of_head marked [])).bind_stops ?_
    rw [if_neg Bool.false_ne_true]
    exact stops_fail _ cs

/-- Nothing in front of what follows quietly starts a text. -/
theorem stops_text (cs : List Char) (calm : ∀ c ∈ cs, c ∉ telling) (quiet : Quiet rest) (place : EscapePlace) :
    Stops (textIn place) (cs ++ rest) := by
  have others : ∀ {cs : List Char}, (∀ c ∈ cs, c ∉ telling) → ((cs ++ rest).dropWhile (· == '#')).head? ≠ some '"' := by
    intro cs calm
    induction cs with
    | nil =>
      cases rest with
      | nil => simp
      | cons c more =>
        have first := quiet c rfl
        simp only [List.mem_cons, not_or] at first
        rw [List.nil_append, List.dropWhile_cons_of_neg (by simpa using first.2.1)]
        simpa using first.1
    | cons c cs ih =>
      by_cases sign : c = '#'
      · subst sign
        exact ih fun d hd => calm d (List.mem_cons_of_mem _ hd)
      · rw [List.cons_append, List.dropWhile_cons_of_neg (by simpa using sign)]
        rintro ⟨⟩
        exact calm '"' List.mem_cons_self (by decide)
  refine stops_textIn place ?_ fun more text => ?_
  · intro quote
    cases cs with
    | nil => exact quiet '"' quote (by decide)
    | cons c cs =>
      obtain rfl : c = '"' := by simpa using quote
      exact calm '"' List.mem_cons_self (by decide)
  · cases cs with
    | nil =>
      have letter : 'r' ∈ rest.head? := congrArg List.head? text
      exact absurd (by decide) (quiet 'r' letter)
    | cons c cs =>
      obtain ⟨rfl, rfl⟩ := List.cons.inj text
      exact others fun d hd => calm d (List.mem_cons_of_mem _ hd)

/-- There is nothing to go over where no quote comes next. -/
theorem reads_no_literals (cs : List Char) (calm : ∀ c ∈ cs, c ∉ telling) (quiet : Quiet rest) (quote : (cs ++ rest).head? ≠ some '\'') :
    Reads lookLiterals (cs ++ rest) () (cs ++ rest) := by
  have bytes : Stops byteText (cs ++ rest) := by
    cases cs with
    | nil =>
      refine Stops.bind (stops_expect (fun byte => ?_) _) _
      exact quiet 'b' byte (by decide)
    | cons c cs =>
      by_cases byte : c = 'b'
      · subst byte
        have text := stops_text cs (fun d hd => calm d (List.mem_cons_of_mem _ hd)) quiet .bytes
        exact (reads_expect 'b' _ (cs ++ rest)).bind_stops (Stops.bind text _)
      · exact Stops.bind (stops_expect (by simpa using byte) _) _
  refine (reads_attempt_stops (stops_character quote)).bind ?_
  exact (reads_attempt_stops (stops_text cs calm quiet .text)).bind (reads_attempt_stops bytes)

/-! ## What the reader goes over -/

/-- What follows a part of a text: something quiet that the reader answers from, whether it comes there behind a text or not. -/
structure Beyond (depth : Nat) (answer : Bool) (cs : List Char) : Prop where
  quiet : Quiet cs
  goes : Goes depth cs answer
  answers : Answers depth cs answer

/-- The reader goes over a text: it answers as it does behind it. -/
def Crosses (cs : List Char) : Prop :=
  ∀ depth answer rest, Beyond depth answer rest → Answers depth (cs ++ rest) answer

/-- So it does up to a bracket that closes. -/
def Closes (cs : List Char) : Prop :=
  ∀ depth answer rest, ∀ close ∈ [')', ']', '}'], Answers depth rest answer → Answers (depth + 1) (cs ++ close :: rest) answer

theorem beyond_cons {c : Char} (among : c ∈ separators) (h : Goes depth (c :: rest) answer) :
    Beyond depth answer (c :: rest) := by
  have all : ∀ c ∈ separators, c ∉ ['"', '#', 'r', 'b'] ∧ c ≠ '\'' ∧ isSpace c = false ∧ c ≠ '/' := by decide
  obtain ⟨first, quote, space, slash⟩ := all c among
  have quiet := quiet_cons first rest
  have nothing := reads_no_literals [] nofun quiet (by simpa using quote)
  exact ⟨quiet, h, answers_of_goes [] ⟨c, rest, rfl, space, slash⟩ nothing h⟩

/-- Spaces may come first. -/
theorem beyond_gap {gap : List Char} (spaces : ∀ c ∈ gap, isSpace c = true) {c : Char} (among : c ∈ separators)
    (h : Goes depth (c :: rest) answer) : Beyond depth answer (gap ++ c :: rest) := by
  have all : ∀ c ∈ spaceCharacters, c ∉ ['"', '#', 'r', 'b'] ∧ c ∉ telling := by decide
  induction gap with
  | nil => exact beyond_cons among h
  | cons d gap ih =>
    have behind := ih fun c hc => spaces c (List.mem_cons_of_mem _ hc)
    have space := spaces d List.mem_cons_self
    obtain ⟨quiet, other⟩ := all d ((isSpace_iff d).1 space)
    exact ⟨quiet_cons quiet _, goes_other other behind.answers, behind.answers.space space⟩

/-- Where nothing is telling, the reader goes over one character after the other. -/
theorem answers_calm (cs : List Char) (calm : ∀ c ∈ cs, c ∉ telling) (quiet : Quiet rest) (h : Answers depth rest answer) :
    Answers depth (cs ++ rest) answer := by
  induction cs with
  | nil => exact h
  | cons c cs ih =>
    have behind := ih fun d hd => calm d (List.mem_cons_of_mem _ hd)
    have first := calm c List.mem_cons_self
    by_cases space : isSpace c = true
    · exact behind.space space
    · have slash : c ≠ '/' := by
        rintro rfl
        exact first (by decide)
      have quote : (c :: cs ++ rest).head? ≠ some '\'' := by
        rintro ⟨⟩
        exact first (by decide)
      have starts : Starts (c :: cs ++ rest) := ⟨c, cs ++ rest, rfl, Bool.eq_false_iff.2 space, slash⟩
      have nothing : Reads lookLiterals (c :: cs ++ rest) () (c :: cs ++ rest) := reads_no_literals _ calm quiet quote
      exact answers_of_goes [] starts nothing (goes_other first behind)

theorem crosses_calm (calm : ∀ c ∈ cs, c ∉ telling) : Crosses cs :=
  fun _ _ _ beyond => answers_calm cs calm beyond.quiet beyond.answers

/-- A text or a character is gone over with what comes next. -/
theorem crosses_literal (starts : Starts cs) (literals : ∀ rest, Quiet rest → Reads lookLiterals (cs ++ rest) () rest) : Crosses cs :=
  fun _ _ _ beyond => answers_of_goes cs (starts.append _) (literals _ beyond.quiet) beyond.goes

theorem crosses_text {s : String} (h : TextLiteral .text s cs) : Crosses cs := by
  have quote : ∀ rest, (cs ++ rest).head? ≠ some '\'' := by
    cases h <;> simp
  refine crosses_literal (opens_text h).starts fun rest quiet => ?_
  refine (reads_attempt_stops (stops_character (quote rest))).bind ((reads_attempt (reads_textIn h rest)).bind ?_)
  exact reads_attempt_stops (Stops.bind (stops_expect (fun byte => quiet 'b' byte (by decide)) _) _)

theorem crosses_bytes {s : String} (h : TextLiteral .bytes s cs) : Crosses ('b' :: cs) := by
  refine crosses_literal ⟨'b', cs, rfl, by decide, by decide⟩ fun rest _ => ?_
  refine (reads_attempt_stops (stops_character (by simp))).bind ?_
  refine (reads_attempt_stops (stops_textIn .text (by simp) ?_)).bind (reads_attempt (reads_byteText h rest))
  rintro more ⟨⟩

theorem crosses_character (h : CharacterLiteral cs) : Crosses cs := by
  have starts : Starts cs := by
    cases h <;> exact ⟨'\'', _, rfl, by decide, by decide⟩
  refine crosses_literal starts fun rest quiet => ?_
  obtain ⟨c, taken⟩ := reads_character h rest
  refine (reads_attempt taken).bind ((reads_attempt_stops (stops_text [] nofun quiet .text)).bind ?_)
  exact reads_attempt_stops (Stops.bind (stops_expect (fun byte => quiet 'b' byte (by decide)) _) _)

theorem crosses_number (h : AnyNumber cs) (clear : Clear cs) : Crosses cs := by
  rcases h.not_telling with byte | calm
  · obtain ⟨more, rfl, character⟩ := byte.character clear
    intro depth answer rest beyond
    have quiet : Quiet (more ++ rest) := by
      cases character <;> exact quiet_cons (by decide) _
    exact answers_calm ['b'] (by decide) quiet (crosses_character character depth answer rest beyond)
  · exact crosses_calm calm

/-- The first and the last number of a range may be missing. -/
theorem answers_optional (h : vs = [] ∨ AnyNumber vs) (clear : Clear vs) (beyond : Beyond depth answer rest) :
    Answers depth (vs ++ rest) answer := by
  rcases h with rfl | h
  · exact beyond.answers
  · exact crosses_number h clear depth answer rest beyond

theorem crosses_numberOrRange (h : NumberOrRange cs) (clear : Clear cs) : Crosses cs := by
  have sign : ∀ c ∈ ['.', '='], ∀ {depth answer rest}, Answers depth rest answer → Beyond depth answer (c :: rest) := by
    have others : ∀ c ∈ ['.', '='], c ∈ separators ∧ c ∉ telling := by decide
    exact fun c hc _ _ _ h => beyond_cons (others c hc).1 (goes_other (others c hc).2 h)
  cases h with
  | number h => exact crosses_number h clear
  | @range first last hf _ hl =>
    intro depth answer rest beyond
    have behind : last <:+ first ++ '.' :: '.' :: last :=
      ((List.suffix_cons '.' last).trans (List.suffix_cons '.' _)).trans (List.suffix_append first _)
    have second := answers_optional hl (clear.part behind.isInfix) beyond
    rw [List.append_assoc]
    exact answers_optional hf (clear.part (List.prefix_append first _).isInfix)
      (sign '.' (by simp) (sign '.' (by simp) second).answers)
  | @closed first last hf _ hl =>
    intro depth answer rest beyond
    have behind : last <:+ first ++ '.' :: '.' :: '=' :: last :=
      ((List.suffix_cons '=' last).trans ((List.suffix_cons '.' _).trans (List.suffix_cons '.' _))).trans (List.suffix_append first _)
    have second := crosses_number hl (clear.part behind.isInfix) depth answer rest beyond
    rw [List.append_assoc]
    exact answers_optional hf (clear.part (List.prefix_append first _).isInfix)
      (sign '.' (by simp) (sign '.' (by simp) (sign '=' (by simp) second).answers).answers)

/-! ## Values -/

variable {part : List Char → Prop} {parts : List Unit}

theorem closes_nil : Closes [] := by
  have among : ∀ c ∈ [')', ']', '}'], c ∈ separators := by decide
  exact fun depth answer rest close mark behind => (beyond_cons (among close mark) (goes_closing mark behind)).answers

/-- The reader goes over parts with commas between them, up to the bracket that closes them. -/
theorem closes_listing (each : ∀ vs, vs <:+: cs → part vs → Crosses vs) (h : Listing (fun _ => part) parts cs) (clear : Clear cs) :
    Closes cs := by
  have among : ∀ c ∈ [')', ']', '}'], c ∈ separators := by decide
  induction h with
  | nil => exact closes_nil
  | @last _ vs gap h hgap =>
    intro depth answer rest close mark behind
    have spaces := (clear.part (List.suffix_append vs gap).isInfix).spaces hgap
    rw [List.append_assoc]
    exact each vs (List.prefix_append vs gap).isInfix h _ _ _ (beyond_gap spaces (among close mark) (goes_closing mark behind))
  | @cons _ _ vs before space more h hb hb' _ ih =>
    intro depth answer rest close mark behind
    have later : more <:+: vs ++ (before ++ ',' :: (space ++ more)) :=
      ((List.suffix_append space more).trans (List.suffix_cons _ _)).trans
        ((List.suffix_append before _).trans (List.suffix_append vs _)) |>.isInfix
    have front : before <:+: vs ++ (before ++ ',' :: (space ++ more)) :=
      (List.prefix_append before _).isInfix.trans (List.suffix_append vs _).isInfix
    have others := ih (fun ws here => each ws (here.trans later)) (clear.part later) depth answer rest close mark behind
    have comma := beyond_gap ((clear.part front).spaces hb) (by decide) (goes_comma_inside (others.gap hb'))
    simp only [List.append_assoc, List.cons_append]
    exact each vs (List.prefix_append vs _).isInfix h _ _ _ comma

theorem Closes.gap {gap : List Char} (hgap : Gap gap) (h : Closes cs) : Closes (gap ++ cs) := by
  intro depth answer rest close mark behind
  rw [List.append_assoc]
  exact (h depth answer rest close mark behind).gap hgap

theorem closes_parts (each : ∀ vs, vs <:+: cs → part vs → Crosses vs) (h : Parts part cs) (clear : Clear cs) : Closes cs := by
  obtain ⟨hgap, h⟩ := h
  rename_i gap inside parts
  have part := (List.suffix_append gap inside).isInfix
  exact (closes_listing (fun vs here => each vs (here.trans part)) h (clear.part part)).gap hgap

/-- It goes over brackets with what is in them. -/
theorem goes_brackets {opening close : Char} (first : opening ∈ ['(', '[', '{']) (last : close ∈ [')', ']', '}']) {inside : List Char}
    (h : Closes inside) (behind : Answers depth rest answer) : Goes depth (opening :: (inside ++ [close] ++ rest)) answer := by
  rw [List.append_assoc]
  exact goes_opening first (h depth answer rest close last behind)

theorem crosses_brackets {opening close : Char} (first : opening ∈ ['(', '[', '{']) (last : close ∈ [')', ']', '}']) {inside : List Char}
    (h : Closes inside) : Crosses (opening :: (inside ++ [close])) := by
  have among : ∀ c ∈ ['(', '[', '{'], c ∈ separators := by decide
  exact fun depth answer rest beyond => (beyond_cons (among opening first) (goes_brackets first last h beyond.answers)).answers

/-- A name may stand in front of them. -/
theorem crosses_named {name : String} {ks space inside : List Char} (hk : Name name ks) (spaces : ∀ c ∈ space, isSpace c = true)
    (h : Closes inside) : Crosses (ks ++ (space ++ '(' :: (inside ++ [')']))) := by
  have parenthesis : ')' ∈ [')', ']', '}'] := List.mem_cons_self
  intro depth answer rest beyond
  have opened := beyond_gap spaces (by decide : '(' ∈ separators) (goes_brackets (by simp) parenthesis h beyond.answers)
  rw [List.append_assoc, List.append_assoc]
  exact answers_calm ks (not_telling_name hk) opened.quiet opened.answers

theorem crosses_head {head inside : List Char} (hh : Head head) (clear : Clear head) (h : Closes inside) :
    Crosses (head ++ '(' :: (inside ++ [')'])) := by
  cases hh with
  | none => exact crosses_brackets (by simp) (by simp) h
  | @named name ks space hk hspace =>
    rw [List.append_assoc]
    exact crosses_named hk.written ((clear.part (List.suffix_append ks space).isInfix).spaces hspace) h

/-- It goes over the key and the value of an entry. -/
theorem crosses_entry {ks : List Char} (key : Crosses ks) (value : Crosses vs) (entry : Entry ks vs cs) (clear : Clear cs) :
    Crosses cs := by
  cases entry with
  | @mk before behind hb hb' =>
    intro depth answer rest beyond
    have front : before <:+: ks ++ (before ++ ':' :: (behind ++ vs)) :=
      (List.prefix_append before _).isInfix.trans (List.suffix_append ks _).isInfix
    have second := (value depth answer rest beyond).gap hb'
    have colon := beyond_gap ((clear.part front).spaces hb) (by decide : ':' ∈ separators) (goes_other (by decide) second)
    simp only [List.append_assoc, List.cons_append]
    exact key depth answer _ colon

theorem crosses_field (each : ∀ vs, vs <:+: cs → part vs → Crosses vs) (h : Field part cs) (clear : Clear cs) : Crosses cs := by
  obtain ⟨hk, hv, entry⟩ := h
  exact crosses_entry (crosses_calm (not_telling_name hk)) (each _ entry.value_infix hv) entry clear

theorem crosses_mapEntry (each : ∀ vs, vs <:+: cs → part vs → Crosses vs) (h : MapEntry part cs) (clear : Clear cs) : Crosses cs := by
  obtain ⟨hk, hv, entry⟩ := h
  exact crosses_entry (each _ entry.key_infix hk) (each _ entry.value_infix hv) entry clear

/-- It goes over a value with nothing inside. -/
theorem crosses_atom (h : Atom cs) (clear : Clear cs) : Crosses cs := by
  have words : ∀ w ∈ ["true", "false", "None"], ∀ c ∈ w.toList, c ∉ telling := by decide
  cases h with
  | word h => exact crosses_calm (words _ h)
  | unit => exact crosses_brackets (by simp) (by simp) closes_nil
  | number h => exact crosses_numberOrRange h clear
  | name h => exact crosses_calm (not_telling_name h.written)
  | text h => exact crosses_text h
  | bytes h => exact crosses_bytes h
  | character h => exact crosses_character h

variable {e : Extensions} {sure : Prop} {content item inner : List Char → Prop}

/-- What stands in the parentheses of an optional value are parts with commas between them, however it is written. -/
theorem closes_optionalPart (contents : ∀ vs, vs <:+: cs → content vs → Crosses vs) (inners : ∀ vs, vs <:+: cs → inner vs → Crosses vs)
    (h : OptionalPart e sure content inner cs) (clear : Clear cs) : Closes cs := by
  cases h with
  | whole h _ => exact closes_listing contents h clear
  | fields _ h =>
    refine closes_listing (fun fs here field => ?_) h clear
    exact crosses_field (fun vs within => inners vs (within.trans here)) field (clear.part here)
  | items _ h _ => exact closes_listing inners h clear

/-- It goes over a value if it does so over the values in it. -/
theorem crosses_valueOf (optional : ∀ vs, vs <:+: cs → OptionalPart e sure content inner vs → Closes vs)
    (items : ∀ vs, vs <:+: cs → item vs → Crosses vs) (h : ValueOf e sure content item inner cs) (clear : Clear cs) : Crosses cs := by
  cases h with
  | atom h => exact crosses_atom h clear
  | @optional gap _ hgap h =>
    obtain ⟨space, h⟩ := h
    rename_i more inside
    have name : Name "Some" "Some".toList := .plain (by simp [IsName])
    have spaces := (clear.part ((List.prefix_append gap _).isInfix.trans (List.suffix_append _ _).isInfix)).spaces hgap
    have closes := optional inside (infix_enclosed _ gap more inside) h
    rw [← List.append_assoc more]
    exact crosses_named name spaces (closes.gap space)
  | @tuple head inside hh h =>
    have part := infix_brackets head '(' ')' inside
    have closes := closes_parts (fun vs here => items vs (here.trans part)) h (clear.part part)
    exact crosses_head hh (clear.part (List.prefix_append head _).isInfix) closes
  | @record head inside hh h =>
    have part := infix_brackets head '(' ')' inside
    have each : ∀ fs, fs <:+: inside → Field item fs → Crosses fs := fun fs here field =>
      crosses_field (fun vs within => items vs (within.trans (here.trans part))) field (clear.part (here.trans part))
    exact crosses_head hh (clear.part (List.prefix_append head _).isInfix) (closes_parts each h (clear.part part))
  | @list inside h =>
    have part := infix_brackets [] '[' ']' inside
    have closes := closes_parts (fun vs here => items vs (here.trans part)) h (clear.part part)
    exact crosses_brackets (by simp) (by simp) closes
  | @map inside h =>
    have part := infix_brackets [] '{' '}' inside
    have each : ∀ fs, fs <:+: inside → MapEntry item fs → Crosses fs := fun fs here entry =>
      crosses_mapEntry (fun vs within => items vs (within.trans (here.trans part))) entry (clear.part (here.trans part))
    exact crosses_brackets (by simp) (by simp) (closes_parts each h (clear.part part))

/-- The reader goes over any value. -/
theorem crosses_value {n : Nat} (h : Value e sure n cs) (clear : Clear cs) : Crosses cs := by
  induction n using Nat.strong_induction_on generalizing cs with
  | _ n ih =>
    have smaller : ∀ vs, vs <:+: cs → (∃ m < n, Value e sure m vs) → Crosses vs := by
      rintro vs here ⟨m, less, h⟩
      exact ih m less h (clear.part here)
    refine crosses_valueOf (fun vs here part => ?_) smaller h.parts clear
    exact closes_optionalPart (fun ws within => smaller ws (within.trans here)) (fun ws within => smaller ws (within.trans here)) part
      (clear.part here)

/-! ## What the reader finds -/

/-- The reader that looks ahead says whether another value follows, if what comes first is no field. -/
theorem lookAhead_of_answers (h : Answers 0 cs answer) (unlabelled : contentsOf cs = .items)
    (another : answer = true → (behindName? cs).bind List.head? ≠ some ')') :
    lookAhead cs = .ok (if answer then some .items else none) := by
  obtain ⟨last, rest, found⟩ := h [] .nil
  have followed : Reads anotherFollows cs answer rest := Reads.bind found (Reads.pure answer rest)
  obtain ⟨after, followed⟩ := followed cs
  unfold lookAhead
  split
  · next colon =>
    have named : contentsOf cs = .named := by
      rw [contentsOf, colon]
      rfl
    cases named.symm.trans unlabelled
  · next close =>
    cases answer with
    | false => rfl
    | true => exact absurd (congrArg (·.bind List.head?) close) (another rfl)
  · rw [Cursor.start, followed]
    rfl

/-- It finds that a value stands alone. -/
theorem judged_lone {n : Nat} (h : Lone (Value e sure n) cs) (clear : Clear cs) : Judged none cs := by
  intro rest _
  have answers : Answers 0 (cs ++ ')' :: rest) false := by
    cases h with
    | @last _ vs gap h hgap =>
      have spaces := (clear.part (List.suffix_append vs gap).isInfix).spaces hgap
      rw [List.append_assoc]
      exact crosses_value h (clear.part (List.prefix_append vs gap).isInfix) _ _ _
        (beyond_gap spaces (by decide : ')' ∈ separators) (goes_end rest))
    | @cons _ _ vs before behind _ h hb hb' others =>
      cases others
      have front : before <:+: vs ++ (before ++ ',' :: (behind ++ [])) :=
        (List.prefix_append before _).isInfix.trans (List.suffix_append vs _).isInfix
      have comma := goes_comma hb' (starts_close rest)
      have beyond := beyond_gap ((clear.part front).spaces hb) (by decide : ',' ∈ separators) comma
      rw [List.append_nil, List.append_assoc, List.append_assoc, List.cons_append]
      exact crosses_value h (clear.part (List.prefix_append vs _).isInfix) _ _ _ beyond
  exact reads_bareContents?_iff.2 (lookAhead_of_answers answers (contentsOf_items (fun _ => unlabelled_value) h rest) nofun)

/-- It finds that there is another one. -/
theorem judged_several {n : Nat} {a b : Unit} (h : Listing (fun _ : Unit => Value e sure n) (a :: b :: parts) cs) (clear : Clear cs) :
    Judged (some .items) cs := by
  intro rest _
  have items := contentsOf_items (fun _ => unlabelled_value) h rest
  refine reads_bareContents?_iff.2 ?_
  cases h with
  | @cons _ _ vs before behind more h hb hb' others =>
    have opens : Opens more := by
      cases others with
      | last h _ => exact (opens_value h).append _
      | cons h _ _ _ => exact (opens_value h).append _
    have front : before <:+: vs ++ (before ++ ',' :: (behind ++ more)) :=
      (List.prefix_append before _).isInfix.trans (List.suffix_append vs _).isInfix
    have comma := goes_comma hb' (opens.append (')' :: rest)).starts
    have follows : ((more ++ ')' :: rest).head? != some ')') = true :=
      bne_iff_ne.2 ((opens.append (')' :: rest)).head_ne (by decide))
    have beyond := beyond_gap ((clear.part front).spaces hb) (by decide : ',' ∈ separators) comma
    have answers := crosses_value h (clear.part (List.prefix_append vs _).isInfix) _ _ _ beyond
    have text : vs ++ (before ++ ',' :: (behind ++ more)) ++ ')' :: rest =
        vs ++ (before ++ ',' :: (behind ++ (more ++ ')' :: rest))) := by
      simp only [List.append_assoc, List.cons_append]
    rw [follows] at answers
    rw [text] at items ⊢
    refine lookAhead_of_answers answers items fun _ close => ?_
    rcases unlabelled_value h before hb ',' (by decide) _ ')' close with same | same
    · exact absurd same (by decide)
    · exact absurd same (by decide)

end Reader

/-! ## Values that are sure -/

variable {e : Extensions} {cs : List Char}

/-- The reader is right about the values in the parentheses of an optional one. -/
theorem OptionalPart.sure {content inner inner' : List Char → Prop} {n m : Nat} (values : ∀ vs, inner vs → Value e False m vs)
    (contents : ∀ vs, vs <:+: cs → Value e False n vs → content vs) (inners : ∀ vs, vs <:+: cs → inner vs → inner' vs)
    (less : ∀ vs, inner' vs → content vs) (h : OptionalPart e False (Value e False n) inner cs)
    (clear : e.bareVariants = true → Clear cs) : OptionalPart e True content inner' cs := by
  cases h with
  | whole h _ => exact .whole (Listing.imp (fun _ => contents) h) fun _ bare => Reader.judged_lone h (clear bare)
  | fields bare h => exact .fields bare (h.imp fun _ fs here field => field.imp fun vs within => inners vs (within.trans here))
  | @items parts bare h _ =>
    have known : Listing (fun _ => Value e False m) parts cs := h.imp fun _ vs _ => values vs
    match parts, h, known with
    | [], h, _ =>
      cases h
      exact .fields bare (.nil : Listing (fun _ => Field inner') [] [])
    | [_], h, known =>
      have alone : Lone content cs := Listing.imp (fun _ vs here found => less vs (inners vs here found)) h
      exact .whole alone fun _ bare => Reader.judged_lone known (clear bare)
    | _ :: _ :: _, h, known => exact .items bare (h.imp fun _ => inners) fun _ => Reader.judged_several known (clear bare)

/-- Where a text is clear, or nothing is written bare, it is sure what any value is. -/
theorem Value.sure {n : Nat} (h : Value e False n cs) (clear : e.bareVariants = true → Clear cs) : Value e True n cs := by
  induction n using Nat.strong_induction_on generalizing cs with
  | _ n ih =>
    have smaller : ∀ m < n, ∀ vs, vs <:+: cs → Value e False m vs → Value e True m vs :=
      fun m less vs here h => ih m less h fun bare => (clear bare).part here
    have part : ∀ {vs}, vs <:+: cs → e.bareVariants = true → Clear vs := fun here bare => (clear bare).part here
    match n, h with
    | 0, h => exact h
    | 1, h =>
      refine ValueOf.imp (fun vs here optional => ?_) (fun _ _ => False.elim) h
      exact optional.sure (n := 0) (m := 0) (fun _ => False.elim) (fun _ _ atom => atom) (fun _ _ => id) (fun _ => False.elim) (part here)
    | 2, h =>
      refine ValueOf.imp (fun vs here optional => ?_) (fun _ _ => id) h
      exact optional.sure (n := 1) (m := 0) (fun _ => False.elim) (fun ws within => smaller 1 (by omega) ws (within.trans here))
        (fun _ _ => id) (fun _ => False.elim) (part here)
    | n + 3, h =>
      refine ValueOf.imp (fun vs here optional => ?_) (smaller (n + 1) (by omega)) h
      exact optional.sure (fun _ => id) (fun ws within => smaller (n + 2) (by omega) ws (within.trans here))
        (fun ws within => smaller n (by omega) ws (within.trans here)) (fun _ inner => inner.succ.succ) (part here)

end Notation

end DebugConsole
