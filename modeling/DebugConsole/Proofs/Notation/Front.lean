import DebugConsole.Notation.Front
import DebugConsole.Proofs.Notation.Record

/-!
# The lines at the front of a text

Lines at the front of a text name extensions or say something about the text, with gaps wherever there may be any. They are read up to
where the value starts, and the extensions are the ones that were named (`Reader.reads_front_text`).
-/

namespace DebugConsole

namespace Notation

/-- Pieces of text with gaps behind them. -/
inductive PiecesText : List (List Char) → List Char → Prop
  | nil : PiecesText [] []
  | cons {piece gap cs : List Char} {pieces : List (List Char)} (hgap : Gap gap) (more : PiecesText pieces cs) :
    PiecesText (piece :: pieces) (piece ++ (gap ++ cs))

/-- Names of extensions with commas between them, and perhaps one behind the last. -/
inductive NamesText : Extensions → Extensions → List Char → Prop
  | last {e e' : Extensions} {name : String} {ks gap : List Char} (hk : Name name ks) (h : Reader.withExtension e name = some e')
    (hgap : Gap gap) : NamesText e e' (ks ++ gap)
  | comma {e e' : Extensions} {name : String} {ks before behind : List Char} (hk : Name name ks)
    (h : Reader.withExtension e name = some e') (hb : Gap before) (hb' : Gap behind) : NamesText e e' (ks ++ (before ++ ',' :: behind))
  | cons {e e' e'' : Extensions} {name : String} {ks before behind cs : List Char} (hk : Name name ks)
    (h : Reader.withExtension e name = some e') (hb : Gap before) (hb' : Gap behind) (more : NamesText e' e'' cs) :
    NamesText e e'' (ks ++ (before ++ ',' :: (behind ++ cs)))

/-- A line at the front, with the extensions before and after it. -/
inductive FrontLine : Extensions → Extensions → List Char → Prop
  /-- A text about the type or the schema. -/
  | note {e : Extensions} {mark equals literal gap close : List Char} {word s : String} (hm : PiecesText [['#'], ['!'], ['[']] mark)
    (hw : word ∈ ["type", "schema"]) {space : List Char} (hs : Gap space) (heq : PiecesText [['=']] equals)
    (hl : TextLiteral .text s literal) (hgap : Gap gap) (hc : PiecesText [[']']] close) :
    FrontLine e e (mark ++ (word.toList ++ (space ++ (equals ++ (literal ++ (gap ++ close))))))
  | enable {e e' : Extensions} {mark word names close : List Char} (hm : PiecesText [['#'], ['!'], ['[']] mark)
    (hw : PiecesText ["enable".toList, ['(']] word) (hn : NamesText e e' names) (hc : PiecesText [[')'], [']']] close) :
    FrontLine e e' (mark ++ (word ++ (names ++ close)))

/-- All lines at the front, with the extensions before and after them. -/
inductive FrontText : Extensions → Extensions → List Char → Prop
  | nil {e : Extensions} : FrontText e e []
  | line {e e' e'' : Extensions} {line more : List Char} (h : FrontLine e e' line) (others : FrontText e' e'' more) :
    FrontText e e'' (line ++ more)

namespace Reader

variable {cs rest : List Char} {e e' : Extensions}

/-- The pieces that lines at the front are made of. -/
def linePieces : List (List Char) :=
  [['#'], ['!'], ['['], ['='], [']'], "enable".toList, ['('], [')']]

/-- They do not start like a gap. -/
theorem starts_piece {piece : List Char} (h : piece ∈ linePieces) : Starts piece := by
  have all : ∀ piece ∈ linePieces, piece.head?.any (fun c => !isSpace c && c != '/') = true := by decide
  obtain ⟨c, head, start⟩ := (Option.any_eq_true _ _).1 (all piece h)
  obtain ⟨more, rfl⟩ := List.head?_eq_some_iff.1 head
  simp only [Bool.and_eq_true, Bool.not_eq_true', bne_iff_ne] at start
  exact ⟨c, more, rfl, start⟩

/-- Pieces are taken with the gaps behind them. -/
theorem reads_pieces {list : List (List Char)} (h : PiecesText list cs) (all : ∀ piece ∈ list, piece ∈ linePieces)
    (starts : Starts rest) : Reads (pieces list) (cs ++ rest) true rest ∧ Starts (cs ++ rest) := by
  induction h with
  | nil => exact ⟨Reads.pure true rest, starts⟩
  | @cons piece gap cs list hgap _ ih =>
    obtain ⟨others, behind⟩ := ih fun piece hp => all piece (List.mem_cons_of_mem _ hp)
    rw [List.append_assoc, List.append_assoc]
    refine ⟨?_, (starts_piece (all piece List.mem_cons_self)).append _⟩
    refine (reads_consume piece _).bind ?_
    rw [if_pos rfl]
    exact (reads_gap hgap behind).bind (others.bind (Reads.pure _ rest))

/-- The round for the name of an extension. -/
def extensionRound (s : Extensions × Bool) : Reader (Option (Extensions × Bool)) := do
  if !s.2 then return none
  let found ← name
  match withExtension s.1 found with
  | none => fail (.unknownExtension found)
  | some e => do
    let comma ← comma
    let nameFollows := (← peek?).any Text.isIdentifierPart
    if !comma && nameFollows then fail (.expected "comma")
    return some (e, comma && nameFollows)

theorem extensionNames_eq (e : Extensions) :
    extensionNames e = (do
      let (e, _) ← iterate extensionRound (e, true)
      return e) := rfl

/-- A round takes the name of an extension. -/
theorem reads_extensionRound {word : String} {ks mid : List Char} (hk : Name word ks) (h : withExtension e word = some e')
    (ends : EndsName mid) {more follows : Bool} (taken : Reads comma mid more rest)
    (behind : rest.head?.any Text.isIdentifierPart = follows) (fine : (!more && follows) = false) :
    Reads (extensionRound (e, true)) (ks ++ mid) (some (e', more && follows)) rest := by
  refine Reads.bind (reads_name_written hk ends) ?_
  dsimp only
  rw [h]
  refine taken.bind ((reads_peek rest).bind ?_)
  rw [behind, fine]
  exact Reads.pure _ rest

/-- Names of extensions start with the first name. -/
theorem names_head (h : NamesText e e' cs) : ∃ word ks more, Name word ks ∧ cs = ks ++ more := by
  cases h with
  | last hk _ _ => exact ⟨_, _, _, hk, rfl⟩
  | comma hk _ _ _ => exact ⟨_, _, _, hk, rfl⟩
  | cons hk _ _ _ _ => exact ⟨_, _, _, hk, rfl⟩

/-- Names of extensions are taken up to the closing parenthesis. -/
theorem reads_extensionNames (h : NamesText e e' cs) (rest : List Char) :
    Reads (extensionNames e) (cs ++ ')' :: rest) e' (')' :: rest) := by
  have close : ')' ∈ marks ∧ ')' ≠ ',' ∧ Text.isIdentifierPart ')' = false := by simp [marks]
  have ending : (')' :: rest).head?.any Text.isIdentifierPart = false := by
    rw [List.head?_cons, Option.any_some]
    exact close.2.2
  have rounds : Reads (iterate extensionRound (e, true)) (cs ++ ')' :: rest) (e', false) (')' :: rest) := by
    induction h with
    | @last e e' word ks gap hk h hgap =>
      have ends : EndsName (gap ++ ')' :: rest) := endsName_gap hgap (by decide) rest
      rw [List.append_assoc]
      refine reads_iterate_step (reads_extensionRound hk h ends (reads_no_comma_gap hgap close.1 close.2.1 rest) ending rfl)
        ((opens_name hk).length_lt [] gap _) (reads_iterate_stop ?_)
      exact Reads.pure none _
    | @comma e e' word ks before behind hk h hb hb' =>
      have ends : EndsName (before ++ ',' :: (behind ++ ')' :: rest)) := endsName_gap hb (by decide) _
      have less := (opens_name hk).length_lt [] (before ++ ',' :: behind) (')' :: rest)
      simp only [List.nil_append, List.append_assoc, List.cons_append] at less ⊢
      refine reads_iterate_step (reads_extensionRound hk h ends (reads_comma_gaps hb hb' (starts_close rest)) ending rfl)
        less (reads_iterate_stop ?_)
      exact Reads.pure none _
    | @cons e e' e'' word ks before behind cs hk h hb hb' more ih =>
      obtain ⟨next, ks', tail, hk', rfl⟩ := names_head more
      have starts : Starts (ks' ++ tail ++ ')' :: rest) := (((opens_name hk').append _).append _).starts
      have follows : (ks' ++ tail ++ ')' :: rest).head?.any Text.isIdentifierPart = true := by
        rw [List.append_assoc]
        exact head_name hk' _
      have ends : EndsName (before ++ ',' :: (behind ++ (ks' ++ tail ++ ')' :: rest))) := endsName_gap hb (by decide) _
      have less := (opens_name hk).length_lt [] (before ++ ',' :: behind) (ks' ++ tail ++ ')' :: rest)
      simp only [List.nil_append, List.append_assoc, List.cons_append] at less ends starts follows ih ⊢
      exact reads_iterate_step (reads_extensionRound hk h ends (reads_comma_gaps hb hb' starts) follows rfl) less ih
  rw [extensionNames_eq]
  exact rounds.bind (Reads.pure e' _)

/-- The words for a text about the type or the schema are told apart. -/
theorem noteWord_apart : ∀ word ∈ ["type", "schema"], (word, ()) ∈ [("type", ()), ("schema", ())] ∧
    ∀ v ∈ [("type", ()), ("schema", ())], v.1.toList <+: word.toList ∨ word.toList <+: v.1.toList → v = (word, ()) := by
  decide

/-- They do not start like a gap. -/
theorem starts_noteWord {word : String} (h : word ∈ ["type", "schema"]) : Starts word.toList := by
  simp only [List.mem_cons, List.not_mem_nil, or_false] at h
  rcases h with rfl | rfl <;> exact ⟨_, _, rfl, by decide, by decide⟩

/-- A text about the type or the schema is taken, and no extension is named. -/
theorem reads_note {mark equals literal gap close space : List Char} {word s : String} (hm : PiecesText [['#'], ['!'], ['[']] mark)
    (hw : word ∈ ["type", "schema"]) (hs : Gap space) (heq : PiecesText [['=']] equals) (hl : TextLiteral .text s literal)
    (hgap : Gap gap) (hc : PiecesText [[']']] close) (starts : Starts rest) :
    Reads (frontLine e) (mark ++ (word.toList ++ (space ++ (equals ++ (literal ++ (gap ++ close))))) ++ rest) e rest := by
  obtain ⟨closed, close_starts⟩ := reads_pieces hc (by decide) starts
  have literal_starts : Starts (literal ++ (gap ++ (close ++ rest))) := ((opens_text hl).append _).starts
  obtain ⟨equal, equal_starts⟩ := reads_pieces heq (by decide) literal_starts
  have word_starts := (starts_noteWord hw).append (space ++ (equals ++ (literal ++ (gap ++ (close ++ rest)))))
  obtain ⟨marked, -⟩ := reads_pieces hm (by decide) word_starts
  obtain ⟨member, apart⟩ := noteWord_apart word hw
  have ends : Ends (space ++ (equals ++ (literal ++ (gap ++ (close ++ rest))))) := by
    cases heq
    exact ends_gap hs (ends_cons (by simp) _)
  simp only [List.append_assoc]
  refine marked.require ((reads_wordFor member apart ends).bind ?_)
  rw [Option.isSome_some, if_pos rfl]
  refine (reads_gap hs equal_starts).bind (equal.require ?_)
  exact Reads.bind (reads_textIn hl _) ((reads_gap hgap close_starts).bind (closed.require (Reads.pure e rest)))

/-- The extensions that are enabled are taken by their names. -/
theorem reads_enable {mark word names close : List Char} (hm : PiecesText [['#'], ['!'], ['[']] mark)
    (hw : PiecesText ["enable".toList, ['(']] word) (hn : NamesText e e' names) (hc : PiecesText [[')'], [']']] close)
    (starts : Starts rest) : Reads (frontLine e) (mark ++ (word ++ (names ++ close)) ++ rest) e' rest := by
  obtain ⟨closed, close_starts⟩ := reads_pieces hc (by decide) starts
  obtain ⟨more, text⟩ : ∃ more, close ++ rest = ')' :: more := by
    cases hc
    exact ⟨_, rfl⟩
  have named : Reads (extensionNames e) (names ++ (close ++ rest)) e' (close ++ rest) := by
    rw [text]
    exact reads_extensionNames hn more
  have names_starts : Starts (names ++ (close ++ rest)) := by
    obtain ⟨next, ks, tail, hk, first⟩ := names_head hn
    rw [first, List.append_assoc]
    exact ((opens_name hk).append _).starts
  obtain ⟨enabled, word_starts⟩ := reads_pieces hw (by decide) names_starts
  obtain ⟨marked, -⟩ := reads_pieces hm (by decide) word_starts
  have no_note : Reads (wordFor [("type", ()), ("schema", ())]) (word ++ (names ++ (close ++ rest))) none
      (word ++ (names ++ (close ++ rest))) := by
    cases hw
    exact reads_wordFor_neither rfl rfl
  simp only [List.append_assoc]
  refine marked.require (no_note.bind (enabled.require ?_))
  exact named.bind ((reads_no_spaces close_starts).bind (closed.require (Reads.pure e' rest)))

/-- A line at the front is taken with the gap behind it. -/
theorem reads_frontLine (h : FrontLine e e' cs) (starts : Starts rest) : Reads (frontLine e) (cs ++ rest) e' rest := by
  cases h with
  | note hm hw hs heq hl hgap hc => exact reads_note hm hw hs heq hl hgap hc starts
  | enable hm hw hn hc => exact reads_enable hm hw hn hc starts

/-- A line at the front starts with a number sign. -/
theorem frontLine_head (h : FrontLine e e' cs) : ∃ more, cs = '#' :: more := by
  cases h with
  | note hm _ _ _ _ _ _ =>
    cases hm
    exact ⟨_, rfl⟩
  | enable hm _ _ _ =>
    cases hm
    exact ⟨_, rfl⟩

theorem starts_frontText (h : FrontText e e' cs) (starts : Starts rest) : Starts (cs ++ rest) := by
  cases h with
  | nil => exact starts
  | line h _ =>
    obtain ⟨more, rfl⟩ := frontLine_head h
    exact ⟨'#', _, rfl, by decide, by decide⟩

/-- The round for a line at the front. -/
def frontRound (e : Extensions) : Reader (Option Extensions) := do
  if (← peek?) ≠ some '#' then return none
  let e ← frontLine e
  spaces
  return some e

/-- The lines at the front are taken, and their extensions are known. -/
theorem reads_frontText {gap : List Char} (hgap : Gap gap) (h : FrontText {} e cs) (starts : Starts rest) (other : rest.head? ≠ some '#') :
    Reads front (gap ++ (cs ++ rest)) e rest := by
  have rounds : ∀ {e e' : Extensions} {cs : List Char}, FrontText e e' cs → Reads (iterate frontRound e) (cs ++ rest) e' rest := by
    intro e e' cs h
    induction h with
    | @nil e =>
      refine reads_iterate_stop ((reads_peek rest).bind ?_)
      rw [if_pos other]
      exact Reads.pure none rest
    | @line e e' e'' line more h others ih =>
      have more_starts := starts_frontText others starts
      have taken := reads_frontLine h more_starts
      obtain ⟨tail, rfl⟩ := frontLine_head h
      rw [List.append_assoc]
      refine reads_iterate_step ((reads_peek _).bind ?_) ?_ ih
      · rw [List.cons_append, List.head?_cons, if_neg (not_not.2 rfl)]
        exact taken.bind ((reads_no_spaces more_starts).bind (Reads.pure _ _))
      · simp only [List.length_append, List.length_cons]
        omega
  exact (reads_gap hgap (starts_frontText h starts)).bind (rounds h)

/-- No record starts like a line at the front. -/
theorem recordOf_head {word : String} {inside : List Char} (h : RecordOf e word inside cs) (rest : List Char) :
    (cs ++ rest).head? ≠ some '#' := by
  have sign : Text.isIdentifierPart '#' = false := by simp
  obtain ⟨hh, -⟩ := h
  cases hh with
  | none _ => simp
  | @named ks gap hk _ =>
    have no_sign : ∀ more, (ks ++ more).head? ≠ some '#' := by
      intro more same
      have part := head_name hk more
      rw [same, Option.any_some, sign] at part
      exact Bool.false_ne_true part
    rw [List.append_assoc, List.append_assoc]
    exact no_sign _

end Reader

end Notation

end DebugConsole
