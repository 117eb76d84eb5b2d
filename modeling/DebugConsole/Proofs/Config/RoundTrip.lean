import DebugConsole.Config.Store
import DebugConsole.Proofs.Config.Components
import DebugConsole.Proofs.Directory
import DebugConsole.Proofs.Notation.Number

/-!
# Configurations read back

The text of a settings file is read as the configuration that it was written for (`Config.parse_print`). Numbers come back with all
their bits, but for values that are no numbers, which come back as such values. What comes back is worked out setting by setting:
`Setting.reread` is the setting that is read for one that was written, and it agrees with it.
-/

namespace DebugConsole

open Notation Notation.Reader

/-! ## What comes back -/

/-- The same components in the same space, up to what stands for no number. -/
structure Color.Agrees (c d : Color) : Prop where
  space : c.space = d.space
  first : c.first.Agrees d.first
  second : c.second.Agrees d.second
  third : c.third.Agrees d.third
  alpha : c.alpha.Agrees d.alpha

/-- The same coordinates, up to what stands for no number. -/
structure Point.Agrees (p q : Point) : Prop where
  x : p.x.Agrees q.x
  y : p.y.Agrees q.y

/-- The same setting with the same value, up to what stands for no number. -/
inductive Setting.Agrees : Setting → Setting → Prop
  | color (slot : ColorSlot) {c d : Color} (h : c.Agrees d) : Agrees (.color slot c) (.color slot d)
  | flag (f : Flag) (b : Bool) : Agrees (.flag f b) (.flag f b)
  | length (side : Side) {x y : Option Single} (h : Option.Rel Single.Agrees x y) : Agrees (.length side x) (.length side y)
  | position {p q : Option Point} (h : Option.Rel Point.Agrees p q) : Agrees (.position p) (.position q)

/-- The same configuration, up to what stands for no number. -/
structure Config.Agrees (c d : Config) : Prop where
  settings : List.Forall₂ Setting.Agrees c.settings.toList d.settings.toList
  userCommands : c.userCommands = d.userCommands

def Color.reread (c : Color) : Color :=
  ⟨c.space, c.first.reread, c.second.reread, c.third.reread, c.alpha.reread⟩

def Point.reread (p : Point) : Point :=
  ⟨p.x.reread, p.y.reread⟩

/-- What is read for a setting once it is written. -/
def Setting.reread : Setting → Setting
  | .color slot c => .color slot c.reread
  | .flag f b => .flag f b
  | .length side x => .length side (x.map Single.reread)
  | .position p => .position (p.map Point.reread)

/-- What is read for all settings once they are written. -/
def Settings.reread (s : Settings) : Settings :=
  .ofList (s.toList.map Setting.reread)

/-- What is read for a configuration once it is written. -/
def Config.reread (config : Config) : Config :=
  ⟨config.settings.reread, config.userCommands⟩

theorem Color.agrees_reread (c : Color) : c.Agrees c.reread :=
  ⟨rfl, c.first.agrees_reread, c.second.agrees_reread, c.third.agrees_reread, c.alpha.agrees_reread⟩

/-- What comes back for the components of a color are those of the color that comes back. -/
theorem Color.components_reread (c : Color) : c.reread.components = c.components.map fun (name, x) => (name, x.reread) := rfl

theorem Point.agrees_reread (p : Point) : p.Agrees p.reread :=
  ⟨p.x.agrees_reread, p.y.agrees_reread⟩

/-- An optional value agrees with what comes back for it if every value does. -/
theorem optionRel_map {α : Type} {r : α → α → Prop} {f : α → α} (h : ∀ a, r a (f a)) (o : Option α) :
    Option.Rel r o (o.map f) := by
  cases o with
  | none => exact .none
  | some a => exact .some (h a)

theorem Setting.agrees_reread (s : Setting) : s.Agrees s.reread := by
  cases s with
  | color slot c => exact .color slot c.agrees_reread
  | flag f b => exact .flag f b
  | length side x => exact .length side (optionRel_map Single.agrees_reread x)
  | position p => exact .position (optionRel_map Point.agrees_reread p)

/-- Every setting is read on its own. -/
theorem Settings.toList_reread (s : Settings) : s.reread.toList = s.toList.map Setting.reread := rfl

/-- What comes back agrees with what was written. -/
theorem Config.agrees_reread (config : Config) : config.Agrees config.reread := by
  refine ⟨?_, rfl⟩
  change List.Forall₂ Setting.Agrees config.settings.toList config.settings.reread.toList
  rw [Settings.toList_reread, List.forall₂_map_right_iff, List.forall₂_same]
  exact fun s _ => s.agrees_reread

namespace Config

/-! ## Lines -/

theorem isSpace_of_mem_indent {level : Nat} : ∀ c ∈ indent level, isSpace c = true := by
  intro c hc
  rw [List.eq_of_mem_replicate hc]
  decide

theorem isSpace_of_mem_newline : ∀ c ∈ ['\n'], isSpace c = true := by
  intro c hc
  rw [List.mem_singleton.mp hc]
  decide

/-- Parts on lines of their own are listed, whatever the level of the lines. -/
theorem listed_partLines (level outer : Nat) {close : Char} {rest : List Char} {parts : List (List Char)}
    (starts : ∀ part ∈ parts, Starts part) (close_starts : Starts (close :: rest)) {blanks : List Char}
    (spaces : ∀ c ∈ blanks, isSpace c = true) :
    Listed close rest parts (blanks ++ (parts.flatMap (partLine level) ++ (indent outer ++ close :: rest))) := by
  induction parts generalizing blanks with
  | nil =>
    refine .nil ?_ close_starts
    rw [List.dropWhile_append_of_pos spaces, List.flatMap_nil, List.nil_append, List.dropWhile_append_of_pos isSpace_of_mem_indent,
      close_starts.dropWhile]
  | cons part parts ih =>
    have part_starts := starts part List.mem_cons_self
    refine .cons ?_ part_starts (ih (fun p hp => starts p (List.mem_cons_of_mem _ hp)) isSpace_of_mem_newline)
    rw [List.dropWhile_append_of_pos spaces, List.flatMap_cons]
    unfold partLine
    rw [List.append_assoc, List.append_assoc, List.append_assoc, List.dropWhile_append_of_pos isSpace_of_mem_indent,
      (part_starts.append _).dropWhile]
    rfl

/-- A list has its items on lines of their own, or none between its brackets. -/
theorem listed_list (level : Nat) {items : List (List Char)} (starts : ∀ item ∈ items, Starts item) (rest : List Char) :
    ∃ cs, list level items ++ rest = '[' :: cs ∧ Listed ']' rest items cs := by
  have close : Starts (']' :: rest) := ⟨']', rest, rfl, by decide, by decide⟩
  unfold list
  by_cases empty : items = []
  · rw [if_pos empty, empty]
    exact ⟨']' :: rest, rfl, .nil close.dropWhile close⟩
  · rw [if_neg empty]
    refine ⟨_, ?_, listed_partLines level (level - 1) starts close isSpace_of_mem_newline⟩
    simp only [List.cons_append, List.append_assoc, List.nil_append]

theorem starts_list (level : Nat) (items : List (List Char)) : Starts (list level items) := by
  unfold list
  split <;> exact ⟨'[', _, rfl, by decide, by decide⟩

/-- A record with its parts on lines of their own is read if its fields are. -/
theorem reads_lines {α β : Type} (e : Extensions) (unnamed : e.namedRecords = false) (name : String) (level : Nat) {depth : Nat}
    {known : String → Option (Nat → Reader α)} {f : List (String × α) → Reader β} {value : β} (written : List (WrittenField α))
    (distinct : (written.map (·.name)).Nodup)
    (each : ∀ w ∈ written, IsName w.name.toList ∧ Starts w.text ∧ ∃ reader, known w.name = some reader ∧
      ∀ more, Reads (reader depth) (w.text ++ ',' :: more) w.value (',' :: more))
    (result : ∀ cs, Reads (f (written.map fun w => (w.name, w.value))) cs value cs) (rest : List Char) :
    Reads (Reader.record e false name (depth + 2) fun depth => do f (← Reader.fields e name depth known))
      (record level (written.map (·.characters)) ++ rest) value rest := by
  have starts : ∀ part ∈ written.map (·.characters), Starts part := by
    intro part hpart
    obtain ⟨w, hw, rfl⟩ := List.mem_map.mp hpart
    exact (start_of_isName (each w hw).1).1.append _
  have lines := listed_partLines level (level - 1) starts (starts_close rest) isSpace_of_mem_newline
  have text : record level (written.map (·.characters)) ++ rest =
      '(' :: (['\n'] ++ ((written.map (·.characters)).flatMap (partLine level) ++ (indent (level - 1) ++ ')' :: rest))) := by
    unfold record
    simp only [List.cons_append, List.append_assoc, List.nil_append]
  rw [text]
  exact reads_record unnamed name ((reads_fields e name distinct each lines).bind (result _))

/-! ## Values -/

section

variable {e : Extensions}

/-- The field of one component of a color, as it is written. -/
def writtenComponent (name : String) (x : Single) : WrittenField Single :=
  ⟨name, number x, x.reread⟩

/-- A color is read from its four components, whatever its space. -/
theorem reads_color (unnamed : e.namedRecords = false) (wrapped : e.bareVariants = false) (level : Nat) (c : Color) (depth : Nat)
    (rest : List Char) :
    Reads (readColor e (depth + 3)) (color level c ++ rest) c.reread rest := by
  let written := c.components.map fun (name, x) => writtenComponent name x
  have names : written.map (·.name) = c.space.components := by
    rw [← c.names_components, List.map_map]
    rfl
  have each : ∀ w ∈ written, IsName w.name.toList ∧ Starts w.text ∧ ∃ reader, componentReader? c.space w.name = some reader ∧
      ∀ more, Reads (reader depth) (w.text ++ ',' :: more) w.value (',' :: more) := by
    intro w hw
    have known : w.name ∈ c.space.components := names ▸ List.mem_map_of_mem hw
    obtain ⟨⟨name, x⟩, -, rfl⟩ := List.mem_map.1 hw
    exact ⟨ColorSpace.isName_of_mem_components known, (start_of_numeral _ x).1, _, if_pos known,
      fun more => reads_single _ x (endsNumber_comma more)⟩
  have found : written.map (fun w => (w.name, w.value)) = c.reread.components := by
    rw [c.components_reread, List.map_map]
    rfl
  have components_read := reads_lines e unnamed c.space.name level written (names ▸ c.space.nodup_components) each
    (fun cs => found ▸ reads_colorOf (c := c.reread) (.refl _) cs) (')' :: rest)
  have text : color level c ++ rest =
      c.space.name.toList ++ '(' :: (record level (written.map (·.characters)) ++ ')' :: rest) := by
    have fields : c.components.map (fun (name, value) => field name (number value)) = written.map (·.characters) := by
      rw [List.map_map]
      rfl
    unfold color
    rw [fields]
    simp only [List.append_assoc, List.cons_append, List.nil_append]
  rw [text]
  refine reads_variant e "Color" c.space.isName_name c.space.lookup_name (starts_open _) ?_
  rw [wrapped]
  exact components_read

/-- A point is read from its two coordinates. -/
theorem reads_point (unnamed : e.namedRecords = false) (p : Point) (depth : Nat) (rest : List Char) :
    Reads (readPoint e false (depth + 2)) (point p ++ rest) p.reread rest := by
  have start := start_of_numeral .settingsFile
  have coordinates := reads_pair unnamed "Vec2" depth (start p.x).1 (start p.y).1 (start p.x).2 (start p.y).2
    (fun more => reads_single _ p.x (endsNumber_comma more)) (reads_single _ p.y (endsNumber_close rest))
  have text : point p ++ rest = '(' :: (number p.x ++ ',' :: ' ' :: (number p.y ++ ')' :: rest)) := by
    unfold point
    simp only [List.cons_append, List.append_assoc, List.nil_append]
  rw [text]
  exact coordinates.bind (Reads.pure _ rest)

/-- An optional value is read if every value is. -/
theorem reads_optional (wrapped : e.bareVariants = false) {α : Type} {write : α → List Char} {reread : α → α}
    {contents : Bool → Nat → Reader α} {depth : Nat} (starts : ∀ a more, Starts (write a ++ more))
    (read : ∀ a more, Reads (contents false depth) (write a ++ ')' :: more) (reread a) (')' :: more)) (o : Option α)
    {rest : List Char} (ends : Ends rest) :
    Reads (Reader.optional e (depth + 1) contents) (optional write o ++ rest) (o.map reread) rest := by
  cases o with
  | none => exact reads_optional_none e (depth + 1) contents ends
  | some a =>
    have text : optional write (some a) ++ rest = "Some(".toList ++ (write a ++ ')' :: rest) := by
      unfold optional
      simp only [List.append_assoc, List.cons_append, List.nil_append]
    rw [text]
    exact reads_optional_some e (starts a _) (wrapped ▸ read a rest)

/-- The value of a setting does not start like a space or a comment. -/
theorem starts_value (s : Setting) : Starts (value s) := by
  cases s with
  | color slot c => exact ((start_of_isName c.space.isName_name).1.append _).append _
  | flag f b => cases b <;> exact ⟨_, _, rfl, by decide, by decide⟩
  | length side x => cases x <;> exact ⟨_, _, rfl, by decide, by decide⟩
  | position p => cases p <;> exact ⟨_, _, rfl, by decide, by decide⟩

/-- There is a reader for every setting, and it reads the value that is written. -/
theorem reads_setting (unnamed : e.namedRecords = false) (wrapped : e.bareVariants = false) (s : Setting) (depth : Nat) :
    ∃ reader, settingReader? e s.name = some reader ∧
    ∀ more, Reads (reader (depth + 3)) (value s ++ ',' :: more) s.reread (',' :: more) := by
  have ends : ∀ more, Ends (',' :: more) := fun more => (endsNumber_comma more).1
  cases s with
  | color slot c =>
    refine ⟨fun depth => return .color slot (← readColor e depth), by cases slot <;> rfl, ?_⟩
    exact fun more => (reads_color unnamed wrapped 3 c depth _).map _
  | flag f b =>
    refine ⟨fun _ => return .flag f (← Reader.bool), by cases f <;> rfl, ?_⟩
    exact fun more => (reads_bool b (ends more)).map _
  | length side x =>
    refine ⟨fun depth => return .length side (← Reader.optional e depth fun _ _ => Reader.single), by cases side <;> rfl, ?_⟩
    intro more
    refine (reads_optional wrapped (fun a more => (start_of_numeral _ a).1.append more) ?_ x (ends more)).map _
    exact fun a more => reads_single _ a (endsNumber_close more)
  | position p =>
    refine ⟨fun depth => return .position (← Reader.optional e depth (readPoint e)), rfl, ?_⟩
    intro more
    refine (reads_optional wrapped (fun a more => starts_open _) ?_ p (ends more)).map _
    exact fun a more => reads_point unnamed a depth _

/-- The field of a setting, as it is written. -/
def writtenSetting (s : Setting) : WrittenField Setting :=
  ⟨s.name, value s, s.reread⟩

/-- All settings are read from their record. -/
theorem reads_settings (unnamed : e.namedRecords = false) (wrapped : e.bareVariants = false) (level : Nat) (s : Settings)
    (depth : Nat) (rest : List Char) :
    Reads (readSettings e (depth + 5)) (record level (s.toList.map fun s => field s.name (value s)) ++ rest) s.reread rest := by
  let written := s.toList.map writtenSetting
  have names : written.map (·.name) = (Settings.toList {}).map Setting.name := rfl
  have distinct : ((Settings.toList {}).map Setting.name).Nodup := by decide
  have letters : ∀ name ∈ (Settings.toList {}).map Setting.name, name.toList ≠ [] ∧ ∀ c ∈ name.toList, isLetter c = true := by
    decide
  have text : s.toList.map (fun s => field s.name (value s)) = written.map (·.characters) := rfl
  rw [text]
  refine reads_lines e unnamed "ConsoleSettings" level written (names ▸ distinct) ?_ (fun cs => Reads.pure s.reread cs) rest
  intro w hw
  have known : w.name ∈ written.map (·.name) := List.mem_map_of_mem hw
  obtain ⟨setting, -, rfl⟩ := List.mem_map.mp hw
  obtain ⟨reader, found, read⟩ := reads_setting unnamed wrapped setting depth
  obtain ⟨nonempty, word⟩ := letters _ (names ▸ known)
  exact ⟨isName_of_letters nonempty word, starts_value setting, reader, found, read⟩

/-- A quoted text starts with a quote. -/
theorem start_of_quote (style : QuoteStyle) (name : String) :
    Starts (style.quote name).toList ∧ (style.quote name).toList.head? ≠ some ']' := by
  have quote : ∃ more, (style.quote name).toList = '"' :: more := by
    unfold QuoteStyle.quote
    rw [String.toList_ofList]
    exact ⟨_, rfl⟩
  obtain ⟨more, h⟩ := quote
  rw [h]
  exact ⟨⟨'"', more, rfl, by decide, by decide⟩, by simp⟩

/-- The user commands are read from their list. -/
theorem reads_userCommands (style : QuoteStyle) (level : Nat) (names : List String) (depth : Nat) (rest : List Char) :
    Reads (Reader.list (depth + 2) fun _ => Reader.text) (list level (names.map fun name => (style.quote name).toList) ++ rest)
      names rest := by
  have starts : ∀ item ∈ names.map fun name => (style.quote name).toList, Starts item := by
    intro item hitem
    obtain ⟨name, -, rfl⟩ := List.mem_map.mp hitem
    exact (start_of_quote style name).1
  obtain ⟨cs, text, listed⟩ := listed_list level starts rest
  have read := reads_list depth (fun _ => Reader.text) id
    (fun name _ => ⟨(start_of_quote style name).2, fun more => reads_text style name _⟩) listed
  rw [text]
  rwa [List.map_id] at read

/-! ## The whole text -/

/-- A configuration is read from the text that is written for it. -/
theorem reads_characters (unnamed : e.namedRecords = false) (wrapped : e.bareVariants = false) (config : Config)
    (rest : List Char) : Reads (reader e) (config.characters ++ rest) config.reread rest := by
  let settings := record 2 (config.settings.toList.map fun s => field s.name (value s))
  let commands := list 2 (config.userCommands.map fun name => (QuoteStyle.settingsFile.quote name).toList)
  let written : List (WrittenField Part) :=
    [⟨"settings", settings, .settings config.settings.reread⟩, ⟨"user_commands", commands, .userCommands config.userCommands⟩]
  have distinct : ["settings", "user_commands"].Nodup := by decide
  have valid : ∀ name ∈ ["settings", "user_commands"], IsName name.toList := by simp [IsName]
  have each : ∀ w ∈ written, IsName w.name.toList ∧ Starts w.text ∧ ∃ reader, partReader? e w.name = some reader ∧
      ∀ more, Reads (reader 126) (w.text ++ ',' :: more) w.value (',' :: more) := by
    intro w hw
    simp only [written, List.mem_cons, List.not_mem_nil, or_false] at hw
    rcases hw with rfl | rfl
    · refine ⟨valid "settings" List.mem_cons_self, starts_open _, _, rfl, ?_⟩
      exact fun more => (reads_settings unnamed wrapped 2 config.settings 121 _).map Part.settings
    · refine ⟨valid "user_commands" (List.mem_cons_of_mem _ List.mem_cons_self), starts_list 2 _, _, rfl, ?_⟩
      exact fun more => (reads_userCommands _ 2 config.userCommands 124 _).map Part.userCommands
  exact reads_lines e unnamed "ConsoleConfigFile" 1 written distinct each (fun cs => Reads.pure config.reread cs) rest

end

/-- A text without lines at its front has no extensions. -/
theorem reads_front {cs : List Char} (starts : Starts cs) (front : cs.head? ≠ some '#') : Reads Reader.front cs {} cs := by
  refine (reads_no_spaces starts).bind (reads_iterate_stop ((reads_peek cs).bind ?_))
  rw [if_pos front]
  exact Reads.pure none cs

/-- The text of a configuration is read as the configuration that comes back. -/
theorem parse_print (config : Config) : parse config.print = .ok config.reread := by
  have read : Reads (Reader.whole reader) config.characters config.reread [] := by
    have front : config.characters.head? ≠ some '#' := by
      change some '(' ≠ some '#'
      decide
    refine (reads_front (starts_open _) front).bind ?_
    have value := reads_characters (e := {}) rfl rfl config []
    rw [List.append_nil] at value
    exact Reads.bind value (reads_spaces_nil.bind ((reads_rest []).bind (Reads.pure _ [])))
  obtain ⟨after, h⟩ := read config.characters
  unfold parse print Cursor.start
  rw [String.toList_ofList, h]

/-! ## Files -/

/-- A configuration that was saved is loaded as it was saved. -/
theorem load_of_save {config : Config} {d d' : Directory} {path : String} (saved : config.save d path = (.ok (), d')) :
    ∃ loaded, load d' path = .ok loaded ∧ config.Agrees loaded := by
  refine ⟨config.reread, ?_, config.agrees_reread⟩
  have file_saved : d.save path config.print = (.ok (), d') := by
    unfold save at saved
    rcases written : d.save path config.print with ⟨result, after⟩
    rw [written] at saved
    obtain ⟨fine, rfl⟩ := Prod.mk.inj saved
    cases result with
    | ok done => rfl
    | error failure => exact absurd fine (by simp [Except.mapError])
  unfold load
  rw [Directory.read_save file_saved]
  dsimp only
  rw [parse_print]
  rfl

/-- A configuration with a width that is no number and with commands that have to be quoted. -/
def odd : Config :=
  { settings := { width := some .nan, height := some (.ofMagnitude true 0) }, userCommands := ["", "a\"\n\\"] }

/-- The folder on the way to the file is made for it. -/
theorem load_of_save_odd : ∃ d', odd.save {} "saves/console.ron" = (.ok (), d') ∧
    ∃ loaded, load d' "saves/console.ron" = .ok loaded ∧ odd.Agrees loaded :=
  ⟨_, rfl, load_of_save (d := {}) rfl⟩

end Config

end DebugConsole
