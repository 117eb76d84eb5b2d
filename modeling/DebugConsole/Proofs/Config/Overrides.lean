import DebugConsole.Proofs.Config.RoundTrip
import DebugConsole.Proofs.Config.Spelling

/-!
# Files that hold some of the fields

A file sets the fields that are written in it and leaves all others at their defaults, in whatever order they come and whatever else the
file holds (`load_fileText`). A field that is there twice makes the file unusable.
-/

namespace DebugConsole

open Notation Notation.Reader

namespace Settings

/-- All settings with one of them changed: the one with the same name is replaced. -/
theorem toList_set (s : Settings) (x : Setting) : (s.set x).toList = s.toList.map fun y => if y.name = x.name then x else y := by
  cases x with
  | color slot c => cases slot <;> simp [toList, set, Setting.name, ColorSlot.name, Flag.name, Side.name]
  | flag f b => cases f <;> simp [toList, set, Setting.name, ColorSlot.name, Flag.name, Side.name]
  | length side x => cases side <;> simp [toList, set, Setting.name, ColorSlot.name, Flag.name, Side.name]
  | position p => simp [toList, set, Setting.name, ColorSlot.name, Flag.name, Side.name]

/-- The names of settings do not depend on their values. -/
theorem names_toList (s : Settings) : s.toList.map Setting.name = Config.settingNames := rfl

/-- A setting is one of those in the list, or it was there before under a name that is not in the list. -/
theorem mem_setAll {s : Settings} {list : List Setting} {x : Setting} (h : x ∈ (s.setAll list).toList) :
    x ∈ list ∨ x ∈ s.toList ∧ x.name ∉ list.map Setting.name := by
  induction list generalizing s with
  | nil => exact Or.inr ⟨h, List.not_mem_nil⟩
  | cons y list ih =>
    rcases ih h with found | ⟨before, other⟩
    · exact Or.inl (List.mem_cons_of_mem y found)
    · rw [toList_set, List.mem_map] at before
      obtain ⟨z, hz, same⟩ := before
      by_cases name : z.name = y.name
      · rw [if_pos name] at same
        exact Or.inl (same ▸ List.mem_cons_self)
      · rw [if_neg name] at same
        subst same
        exact Or.inr ⟨hz, fun member => (List.mem_cons.1 member).elim name other⟩

end Settings

theorem Single.Agrees.refl (x : Single) : x.Agrees x := Or.inl rfl

/-- Every setting agrees with itself. -/
theorem Setting.Agrees.refl (s : Setting) : s.Agrees s := by
  have optional : ∀ {α : Type} {r : α → α → Prop}, (∀ a, r a a) → ∀ o : Option α, Option.Rel r o o := by
    intro α r h o
    cases o with
    | none => exact .none
    | some a => exact .some (h a)
  cases s with
  | color slot c => exact .color slot ⟨rfl, .refl _, .refl _, .refl _, .refl _⟩
  | flag f b => exact .flag f b
  | length side x => exact .length side (optional .refl x)
  | position p => exact .position (optional (fun p => ⟨.refl p.x, .refl p.y⟩) p)

/-- Settings that agree have the same name. -/
theorem Setting.Agrees.name {s t : Setting} (h : s.Agrees t) : s.name = t.name := by
  cases h <;> rfl

namespace Config

/-- Settings agree if those with the same name do. -/
theorem forall₂_agrees {s t : Settings} (h : ∀ x ∈ s.toList, ∀ y ∈ t.toList, x.name = y.name → x.Agrees y) :
    List.Forall₂ Setting.Agrees s.toList t.toList := by
  have names : List.Forall₂ (fun x y => x.name = y.name) s.toList t.toList := by
    have same : List.Forall₂ Eq (s.toList.map Setting.name) (t.toList.map Setting.name) := List.forall₂_same.2 fun _ _ => rfl
    rwa [List.forall₂_map_left_iff, List.forall₂_map_right_iff] at same
  obtain ⟨length, same⟩ := List.forall₂_iff_zip.1 names
  refine List.forall₂_iff_zip.2 ⟨length, fun {x y} member => ?_⟩
  obtain ⟨hx, hy⟩ := List.of_mem_zip member
  exact h x hx y hy (same member)

/-! ## Fields that are written -/

/-- The parts and settings that are written have the values that they have in a configuration. -/
def Piece.Of (config : Config) : Piece → Prop
  | settings fields => ∀ s ∈ fields.reduceOption, ∃ t ∈ config.settings.toList, t.Agrees s
  | userCommands names => names = config.userCommands

/-- The settings in a piece. -/
def Piece.known : Piece → List Setting
  | settings fields => fields.reduceOption
  | userCommands _ => []

/-- The settings that are written in a file. -/
def writtenSettings (pieces : List (Option Piece)) : List Setting :=
  pieces.reduceOption.flatMap Piece.known

/-- The default configuration with all that is written in a file as it is in another configuration. -/
def overridden (config : Config) (pieces : List (Option Piece)) : Config where
  settings := .ofList (config.settings.toList.filter (·.name ∈ (writtenSettings pieces).map Setting.name))
  userCommands := if "user_commands" ∈ pieces.reduceOption.map Piece.name then config.userCommands else ({} : Config).userCommands

/-- No two settings have the same name. -/
theorem eq_of_name {s : Settings} {x y : Setting} (hx : x ∈ s.toList) (hy : y ∈ s.toList) (h : x.name = y.name) : x = y := by
  have distinct : (s.toList.map Setting.name).Nodup := by
    rw [Settings.names_toList]
    decide
  exact List.inj_on_of_nodup_map distinct hx hy h

/-- Settings from a list that agree with those of a configuration are the ones of the configuration under the same names. -/
theorem agrees_ofList {s : Settings} {list : List Setting} (values : ∀ x ∈ list, ∃ y ∈ s.toList, y.Agrees x) :
    List.Forall₂ Setting.Agrees (Settings.ofList (s.toList.filter (·.name ∈ list.map Setting.name))).toList
      (Settings.ofList list).toList := by
  refine forall₂_agrees fun x hx y hy same => ?_
  rcases Settings.mem_setAll hy with written | ⟨default, other⟩
  · -- the setting is written, and the other one cannot be a default
    obtain ⟨z, hz, agrees⟩ := values y written
    have among : z ∈ s.toList.filter (·.name ∈ list.map Setting.name) := by
      rw [List.mem_filter, decide_eq_true_eq, agrees.name]
      exact ⟨hz, List.mem_map_of_mem written⟩
    have name : x.name = z.name := same.trans agrees.name.symm
    rcases Settings.mem_setAll hx with member | ⟨-, missing⟩
    · obtain rfl := eq_of_name (List.mem_of_mem_filter member) hz name
      exact agrees
    · exact absurd (name ▸ List.mem_map_of_mem among) missing
  · rcases Settings.mem_setAll hx with member | ⟨default', -⟩
    · have written := of_decide_eq_true (List.mem_filter.1 member).2
      exact absurd (same ▸ written) other
    · obtain rfl := eq_of_name default' default same
      exact .refl x

/-- The parts of a file are its settings and its user commands, in whatever order. -/
theorem ofPieces_eq {pieces : List (Option Piece)} (distinct : (pieces.reduceOption.map Piece.name).Nodup) :
    (ofPieces pieces).settings = .ofList (writtenSettings pieces) ∧
      ("user_commands" ∉ pieces.reduceOption.map Piece.name → (ofPieces pieces).userCommands = []) ∧
      ∀ names, .userCommands names ∈ pieces.reduceOption → (ofPieces pieces).userCommands = names := by
  unfold ofPieces writtenSettings
  generalize pieces.reduceOption = known at distinct
  rcases known with - | ⟨p, - | ⟨q, - | ⟨r, more⟩⟩⟩
  · exact ⟨rfl, fun _ => rfl, nofun⟩
  · cases p with
    | settings fields => simp [Piece.part, Piece.known, withPart]
    | userCommands names => simp [Piece.part, Piece.known, Piece.name, withPart]; rfl
  · cases p <;> cases q <;> simp [Piece.part, Piece.known, Piece.name, withPart] at distinct ⊢
  · cases p <;> cases q <;> cases r <;> simp [Piece.name] at distinct

/-- What the parts of a file make is what is written in it. -/
theorem agrees_ofPieces {config : Config} {pieces : List (Option Piece)} (distinct : Distinct pieces)
    (values : ∀ piece ∈ pieces.reduceOption, piece.Of config) : (overridden config pieces).Agrees (ofPieces pieces) := by
  obtain ⟨settings, default, commands⟩ := ofPieces_eq distinct.2
  refine ⟨?_, ?_⟩
  · rw [settings]
    refine agrees_ofList fun s hs => ?_
    obtain ⟨piece, hpiece, known⟩ := List.mem_flatMap.1 hs
    have fields := values piece hpiece
    cases piece with
    | settings fields' => exact fields s known
    | userCommands names => exact absurd known List.not_mem_nil
  · change (if _ then _ else _) = _
    split
    · next written =>
      obtain ⟨piece, hpiece, name⟩ := List.mem_map.1 written
      cases piece with
      | settings fields =>
        have other : "settings" ≠ "user_commands" := by decide
        exact absurd name other
      | userCommands names =>
        rw [commands names hpiece]
        exact (values _ hpiece).symm
    · next missing => exact (default missing).symm

/-! ## Files -/

variable {d : Directory} {path text : String}

/-- A file that can be read is loaded if its text is a configuration. -/
theorem load_of_read (file : d.read path = .ok text) : load d path = (parse text).mapError (.syntaxError path) := by
  unfold load
  rw [file]

/-- A file is loaded as what is written in it, over the defaults, or it cannot be used if a field is there twice. The unknown values in it
may be nested no deeper than the reader goes, and the reader has to be right about what is in the optional ones. -/
theorem load_fileText (file : d.read path = .ok text) {e : Extensions} {sure : Prop} {depth : Nat} {pieces : List (Option Piece)}
    (written : FileText e sure depth pieces text.toList) :
    (sure → depth ≤ 124 → Distinct pieces → ∀ config : Config, (∀ piece ∈ pieces.reduceOption, piece.Of config) →
      ∃ loaded, load d path = .ok loaded ∧ (overridden config pieces).Agrees loaded) ∧
    (¬Distinct pieces → (∃ why, load d path = .error (.syntaxError path why)) ∧ loadOrDefault d path = {}) := by
  obtain ⟨result, gives, reading⟩ := gives_fileText written
  have parsed := parse_of_gives gives
  have loaded := load_of_read file
  constructor
  · intro sure deep distinct config values
    obtain rfl := reading.eq_some ⟨sure, deep⟩ distinct
    refine ⟨ofPieces pieces, ?_, agrees_ofPieces distinct values⟩
    rw [loaded, parsed]
    rfl
  · intro twice
    have none : result = none := by
      rw [Option.eq_none_iff_forall_not_mem]
      exact fun read found => twice (reading.eq read found).2
    subst none
    obtain ⟨why, parsed⟩ := parsed
    have failed : load d path = .error (.syntaxError path why) := by
      rw [loaded, parsed]
      rfl
    refine ⟨⟨why, failed⟩, ?_⟩
    unfold loadOrDefault
    rw [failed]

/-- A working directory with nothing in it but a settings file. -/
def holding (text : String) : Directory :=
  ⟨[(["console.ron"], .file text)]⟩

theorem read_holding (text : String) : (holding text).read "console.ron" = .ok text := rfl

/-- A file with fields in another order than usual and with unknown ones, in which values are written bare. -/
def reordered : String :=
  "#![enable(unwrap_variant_newtypes)]\n(user_commands: [\"help\"], later: Some([()], 1), " ++
    "settings: (mode: 1, text_color: LinearRgba(alpha: 1, red: 1, green: 1, blue: 1), move_enabled: true)) // end"

/-- The color that is written in it. -/
def linearWhite : Color := ⟨.linearRgb, .one, .one, .one, .one⟩

/-- What is written in it. -/
def reorderedPieces : List (Option Piece) :=
  [some (.userCommands ["help"]), none, some (.settings [none, some (.color .text linearWhite), some (.flag .moveEnabled true)])]

/-- The line that asks for values to be written bare. -/
theorem frontLine_bare : FrontLine {} { bareVariants := true } "#![enable(unwrap_variant_newtypes)]\n".toList := by
  have name : Name "unwrap_variant_newtypes" "unwrap_variant_newtypes".toList := .plain (by simp [IsName])
  have line : FrontLine {} { bareVariants := true } _ :=
    .enable (.cons .nil (.cons .nil (.cons .nil .nil))) (.cons .nil (.cons .nil .nil)) (.last name rfl .nil)
      (.cons .nil (.cons (gap_singleton (c := '\n') (by decide)) .nil))
  exact cast (congrArg (FrontLine {} { bareVariants := true }) (by decide)) line

/-- It is one of the texts that files may hold. -/
theorem fileText_reordered : FileText { bareVariants := true } True 3 reorderedPieces reordered.toList := by
  have gap : Gap [' '] := gap_singleton (by decide)
  have names : ∀ word ∈ ["user_commands", "later", "settings", "mode", "text_color", "LinearRgba", "alpha", "red", "green", "blue",
      "move_enabled"], Name word word.toList := by
    have names : ∀ word ∈ ["user_commands", "later", "settings", "mode", "text_color", "LinearRgba", "alpha", "red", "green", "blue",
        "move_enabled"], IsName word.toList := by simp [IsName]
    exact fun word member => .plain (names word member)
  have named : ∀ word, Name word word.toList → ∀ {value : List Char → Prop} {vs : List Char}, value vs →
      NamedText word value (word.toList ++ ([] ++ ':' :: ([' '] ++ vs))) := fun word name _ _ hv => .mk name hv (.mk .nil gap)
  have help : TextLiteral .text "help" ('"' :: "help\"".toList) := .quoted (by decide +kernel)
  have commands : PieceText { bareVariants := true } True 3 (.userCommands ["help"]) _ := .userCommands .nil (.last help .nil)
  have one : NumberText .none Single.one "1".toList :=
    cast (congrArg (NumberText .none · "1".toList) (by decide +kernel)) (.decimal ⟨rfl, rfl⟩ : NumberText .none _ ("1".toList ++ "".toList))
  have number : Atom "1".toList := .number (.number (.number one))
  have list : Value { bareVariants := true } False 2 _ := ValueOf.list (.mk .nil (.last (a := ()) Atom.unit .nil))
  have several : Listing (fun _ : Unit => Value { bareVariants := true } False 2) [(), ()] _ :=
    .cons list .nil gap (.last (ValueOf.atom number) .nil)
  have later : Value { bareVariants := true } False 5 _ := ValueOf.optional .nil (.mk .nil (.items rfl several False.elim))
  have component : ∀ word, Name word word.toList → NamedText word (SingleText Single.one) _ :=
    fun word name => named word name (.mk one (by decide))
  have order : List.Perm [("alpha", .one), ("red", .one), ("green", .one), ("blue", .one)] linearWhite.components := by decide
  have components : ComponentsText linearWhite _ :=
    .mk order
      (.cons (component "alpha" (names _ (by simp))) .nil gap (.cons (component "red" (names _ (by simp))) .nil gap
        (.cons (component "green" (names _ (by simp))) .nil gap (.last (component "blue" (names _ (by simp))) .nil))))
  have color : ColorText { bareVariants := true } linearWhite _ := .mk (names "LinearRgba" (by simp)) .nil (.mk .nil (.bare rfl components))
  have flag : SettingText { bareVariants := true } (.flag .moveEnabled true) "true".toList := .flag
  have settings : PieceText { bareVariants := true } True 3
      (.settings [none, some (.color .text linearWhite), some (.flag .moveEnabled true)]) _ :=
    .settings (.cons (.unknown (by decide) (named "mode" (names _ (by simp)) (ValueOf.atom number))) .nil gap
      (.cons (.known (named "text_color" (names _ (by simp)) (.color color))) .nil gap
        (.last (.known (named "move_enabled" (names _ (by simp)) flag)) .nil))) (.mk (.none rfl) .nil)
  have comment : LastGap ([' '] ++ '/' :: '/' :: " end".toList) := .line gap (by decide)
  have written : FileText { bareVariants := true } True 3 reorderedPieces _ :=
    .mk .nil (.line frontLine_bare .nil)
      (.cons (.known (named "user_commands" (names _ (by simp)) commands)) .nil gap
        (.cons (.unknown (by decide) (named "later" (names _ (by simp)) (later.sure fun _ => by decide))) .nil gap
          (.last (.known (named "settings" (names _ (by simp)) settings)) .nil)))
      (.mk (.none rfl) .nil) comment
  exact cast (congrArg (FileText { bareVariants := true } True 3 reorderedPieces) (by decide +kernel)) written

/-- What is written is loaded, and a file with user commands twice is not. -/
theorem load_fileText_reordered :
    (∃ loaded, load (holding reordered) "console.ron" = .ok loaded ∧
      ({ settings := { text := linearWhite, moveEnabled := true }, userCommands := ["help"] } : Config).Agrees loaded) ∧
    (∃ why, load (holding "(user_commands:[],user_commands:[])") "console.ron" = .error (.syntaxError "console.ron" why)) := by
  let config : Config :=
    { settings := { text := linearWhite, moveEnabled := true, fullscreenEnabled := false }, userCommands := ["help"] }
  constructor
  · have distinct : Distinct reorderedPieces := by decide
    have values : ∀ piece ∈ reorderedPieces.reduceOption, piece.Of config := by
      intro piece hpiece
      rcases List.mem_pair.1 hpiece with rfl | rfl
      · rfl
      · intro s hs
        have among : s ∈ config.settings.toList := by
          rcases List.mem_pair.1 hs with rfl | rfl <;> decide
        exact ⟨s, among, .refl s⟩
    exact (load_fileText (read_holding reordered) fileText_reordered).1 trivial (by decide) distinct config values
  · have name : Name "user_commands" "user_commands".toList := .plain (by simp [IsName])
    have none : PieceText {} True 0 (.userCommands []) _ := .userCommands .nil .nil
    have field : FieldText Piece.name (PieceText {} True 0) ["settings", "user_commands"] (Value {} True 2) (some (.userCommands [])) _ :=
      .known (.mk name none (.mk .nil .nil))
    have file : FileText {} True 0 [some (.userCommands []), some (.userCommands [])] _ :=
      .mk .nil .nil (.cons field .nil .nil (.last field .nil)) (.mk (.none rfl) .nil) (.gap .nil)
    have written : FileText {} True 0 [some (.userCommands []), some (.userCommands [])] "(user_commands:[],user_commands:[])".toList :=
      cast (congrArg (FileText {} True 0 _) (by simp)) file
    have twice : ¬Distinct [some (.userCommands []), some (.userCommands [])] := by decide
    exact ((load_fileText (read_holding _) written).2 twice).1

/-! ## Files that are not read -/

/-- Lists in lists, as many as there is depth for or more. -/
def nestedLists : Nat → List Char
  | 0 => ['(', ')']
  | n + 1 => '[' :: (nestedLists n ++ [']'])

theorem listing_nestedLists (n : Nat) {part : List Char → Prop} (h : part (nestedLists n)) :
    Listing (fun _ : Unit => part) [()] (nestedLists n) := by
  have alone : Listing (fun _ : Unit => part) [()] (nestedLists n ++ []) := .last h .nil
  rwa [List.append_nil] at alone

theorem value_nestedLists (e : Extensions) (n : Nat) : Value e True (2 * n) (nestedLists n) := by
  induction n with
  | zero => exact Atom.unit
  | succ n ih =>
    have inside : Parts (Value e True (2 * n)) ([] ++ nestedLists n) := .mk .nil (listing_nestedLists n ih)
    match n with
    | 0 => exact ValueOf.list inside
    | n + 1 => exact ValueOf.list inside

/-- The reader stops in lists that are nested deeper than it goes. -/
theorem yields_nestedLists (e : Extensions) {n depth : Nat} (deep : depth < 2 * n) :
    Yields (skip e depth false) (nestedLists n) (· = none) := by
  induction n generalizing depth with
  | zero => exact absurd deep (Nat.not_lt_zero depth)
  | succ n ih =>
    have opens := opens_value (value_nestedLists e n)
    have item : Yields (insideAt e depth).item (nestedLists n) (· = none) := by
      match depth with
      | 0 | 1 => exact yields opens fun _ => ⟨none, rfl, stops_fail _ _⟩
      | depth + 2 => exact ih (by omega)
    rw [skip_eq]
    refine yields_enclosed (by simp) gives_skipBracket_list fun rest => ⟨none, rfl, ?_⟩
    obtain ⟨result, folds, taken⟩ := gives_items (by decide : ']' ∈ marks) (by decide) (fun _ _ found => found ▸ item) .nil
      (listing_nestedLists n rfl) rest
    obtain rfl : result = none := by
      apply folds.eq_none
      rintro _ _ _ ⟨_, rfl, rfl⟩
      rfl
    match depth with
    | 0 => exact stops_fail _ _
    | depth + 1 =>
      obtain ⟨_, same, reached⟩ := (reaches_insideAt e fun _ : True => Nat.succ_pos depth).gives (taken.map fun _ => ())
      rwa [same trivial] at reached

/-- A file with an unknown field that holds nested lists. -/
def nestedFile (n : Nat) : List Char :=
  '(' :: ("later".toList ++ ':' :: nestedLists n ++ [')'])

theorem fileText_nestedFile (n : Nat) : FileText {} True (2 * n) [none] (nestedFile (n + 1)) := by
  have name : Name "later" "later".toList := .plain (by simp [IsName])
  have field : FieldText Piece.name (PieceText {} True (2 * n)) ["settings", "user_commands"] (Value {} True (2 * n + 2)) none _ :=
    .unknown (by decide) (.mk name (value_nestedLists {} (n + 1)) (.mk .nil .nil))
  have file : FileText {} True (2 * n) [none] _ := .mk .nil .nil (.last field .nil) (.mk (.none rfl) .nil) (.gap .nil)
  simpa [nestedFile] using file

/-- Lists in lists on more levels than the reader goes down are not read. -/
theorem parse_nestedFile {n : Nat} (deep : 63 < n) : ∃ why, parse (String.ofList (nestedFile n)) = .error why := by
  have name : Name "later" "later".toList := .plain (by simp [IsName])
  have close : ')' ∈ marks ∧ ')' ≠ ',' := by decide
  have below : 126 < 2 * n := by omega
  obtain ⟨field, entry, text⟩ : ∃ field, Notation.Entry "later".toList (nestedLists n) field ∧
      nestedFile n = [] ++ '(' :: ([] ++ (field ++ [] ++ [')'])) ++ [] := ⟨_, .mk .nil .nil, by simp [nestedFile]⟩
  have step : ∀ (found : List (String × Part)) (_ : Unit) cs, cs = field →
      Yields (fieldPart {} "ConsoleConfigFile" 127 (partReader? {}) found) cs (· = none) := by
    rintro found - cs rfl
    have value : Yields (do
        deeper 127 fun depth => skip {} depth false
        return found) (nestedLists n) (· = none) :=
      Yields.map (fun _ => found) (yields_nestedLists {} below) fun _ same => congrArg (Option.map _) same
    refine yields_named name ?_ value entry
    rw [partReader?_none (by decide)]
  have fields : GivesInside (do
      let found ← Reader.fields {} "ConsoleConfigFile" 127 (partReader? {})
      return (found.map (·.2)).foldl withPart {}) (field ++ []) (· = none) := by
    intro gap hgap rest
    obtain ⟨result, folds, more, rounds⟩ := gives_rounds close.1 close.2 step hgap (.last (a := ()) rfl .nil) [] rest
    obtain rfl := folds.eq_none fun _ _ _ stopped => stopped
    rw [fields_eq]
    exact ⟨none, rfl, Stops.bind (Stops.bind rounds _) _⟩
  have record : RecordOf {} "ConsoleConfigFile" (field ++ []) ([] ++ '(' :: ([] ++ (field ++ [] ++ [')']))) := .mk (.none rfl) .nil
  obtain ⟨_, rfl, taken⟩ : ∃ result, result = none ∧ Gives (reader {}) (_ ++ []) result [] := gives_record record fields []
  have stops : Gives (Reader.whole reader) (String.ofList (nestedFile n)).toList none [] := by
    rw [String.toList_ofList, text]
    exact gives_whole .nil .nil record (.gap .nil) taken
  exact parse_of_gives stops

/-- A file in which values are written bare. The reader counts brackets to find out what it reads, and it takes the commas behind some
bytes for characters. -/
def unwrapped : String := "#![enable(unwrap_variant_newtypes)]\n(later:Some([b'\\xFF','\x7b',b'\\xFF','\x7b']))"

theorem fileText_unwrapped : FileText { bareVariants := true } False 1 [none] unwrapped.toList := by
  have name : Name "later" "later".toList := .plain (by simp [IsName])
  have escaped : ByteLiteral ('b' :: '\'' :: '\\' :: ("xFF".toList ++ ['\''])) := .escaped (c := 'ÿ') (by decide) (by decide)
  have byte : Atom _ := .number (.number (.byte escaped))
  have bracket : Atom _ := .character (.plain (c := '{') (by decide))
  have bytes : Listing (fun _ : Unit => Atom) [(), (), (), ()] _ :=
    .cons byte .nil .nil (.cons bracket .nil .nil (.cons byte .nil .nil (.last bracket .nil)))
  have list : Value { bareVariants := true } False 2 _ := ValueOf.list (.mk .nil bytes)
  have alone : Lone (Value { bareVariants := true } False 2) _ := .last list .nil
  have later : Value { bareVariants := true } False 3 _ := ValueOf.optional .nil (.mk .nil (.whole alone False.elim))
  have file : FileText { bareVariants := true } False 1 [none] _ :=
    .mk .nil (.line frontLine_bare .nil) (.last (.unknown (by decide) (.mk name later (.mk .nil .nil))) .nil) (.mk (.none rfl) .nil)
      (.gap .nil)
  exact cast (congrArg (FileText { bareVariants := true } False 1 [none]) (by decide +kernel)) file

/-- Not every file is read: lists may be nested too deep, and brackets in characters may be counted. -/
theorem load_unreadable :
    let nested := String.ofList (nestedFile 64)
    Distinct [none] ∧
    (FileText {} True 126 [none] nested.toList ∧
      ∃ why, load (holding nested) "console.ron" = .error (.syntaxError "console.ron" why)) ∧
    (FileText { bareVariants := true } False 1 [none] unwrapped.toList ∧
      ∃ why, load (holding unwrapped) "console.ron" = .error (.syntaxError "console.ron" why)) := by
  intro nested
  have failed : ∀ text, (∃ why, parse text = .error why) →
      ∃ why, load (holding text) "console.ron" = .error (.syntaxError "console.ron" why) := by
    rintro text ⟨why, wrong⟩
    exact ⟨why, by rw [load_of_read (read_holding text), wrong]; rfl⟩
  have miscounted : (parse unwrapped).toOption = none := by decide +kernel
  refine ⟨by decide, ⟨?_, failed nested (parse_nestedFile (by decide))⟩, fileText_unwrapped, failed unwrapped ?_⟩
  · rw [String.toList_ofList]
    exact fileText_nestedFile 63
  · cases wrong : parse unwrapped with
    | error why => exact ⟨why, rfl⟩
    | ok config =>
      rw [wrong] at miscounted
      exact absurd miscounted (Option.some_ne_none config)

end Config

end DebugConsole
