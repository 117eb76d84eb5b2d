import DebugConsole.Config.Store
import DebugConsole.Proofs.Config.Components
import DebugConsole.Proofs.Notation.Ahead
import DebugConsole.Proofs.Notation.Fields
import DebugConsole.Proofs.Notation.Front

/-!
# Configurations as they may be written

A settings file may hold any of the settings in any order, with gaps, comments and unknown fields between them, and every value may be
written in several ways. `FileText` is all such texts. Nothing but the written configuration is read from one of them, and it is read if
no field is there twice, nothing is nested too deep, and the reader does not miss what is in an optional value among the unknown ones
(`gives_fileText`).
-/

namespace DebugConsole

namespace Config

open Notation Notation.Reader

variable {e : Extensions} {cs : List Char}

/-! ## Values -/

/-- A number, with a suffix for its kind or without. -/
inductive SingleText (x : Single) : List Char → Prop
  | mk {suffix : Suffix} {cs : List Char} (h : NumberText suffix x cs) (fine : suffix ≠ .double) : SingleText x cs

/-- The components of a color, in any order. -/
inductive ComponentsText (c : Color) : List Char → Prop
  | mk {order : List (String × Single)} {cs : List Char} (horder : order.Perm c.components)
    (listing : Listing (fun f => NamedText f.1 (SingleText f.2)) order cs) : ComponentsText c cs

/-- The record of these. -/
inductive ColorRecord (e : Extensions) (c : Color) : List Char → Prop
  | mk {inside cs : List Char} (h : ComponentsText c inside) (hr : RecordOf e c.space.name inside cs) : ColorRecord e c cs

/-- A color, whatever its space. -/
inductive ColorText (e : Extensions) (c : Color) : List Char → Prop
  | mk {ks gap text : List Char} (hk : Name c.space.name ks) (hgap : Gap gap)
    (h : Enclosed (PartOf e (ColorRecord e c) (ComponentsText c)) text) : ColorText e c (ks ++ (gap ++ text))

/-- The coordinates of a point. -/
def CoordinatesText (p : Point) : List Char → Prop :=
  Listing SingleText [p.x, p.y]

/-- A point. -/
inductive PointText (e : Extensions) (p : Point) : List Char → Prop
  | mk {inside cs : List Char} (h : CoordinatesText p inside) (hp : PairOf e "Vec2" inside cs) : PointText e p cs

/-- The value of a setting. -/
inductive SettingText (e : Extensions) : Setting → List Char → Prop
  | color {slot : ColorSlot} {c : Color} {cs : List Char} (h : ColorText e c cs) : SettingText e (.color slot c) cs
  | flag {f : Flag} {b : Bool} : SettingText e (.flag f b) (if b then "true".toList else "false".toList)
  | length {side : Side} {x : Option Single} {cs : List Char} (h : OptionalText e SingleText (fun x => Lone (SingleText x)) x cs) :
    SettingText e (.length side x) cs
  | position {p : Option Point} {cs : List Char}
    (h : OptionalText e (PointText e) (fun p => PartOf e (PointText e p) (CoordinatesText p)) p cs) : SettingText e (.position p) cs

/-! ## Files -/

/-- The names of all settings. -/
def settingNames : List String :=
  (Settings.toList {}).map Setting.name

/-- One part of a file: settings, with unknown fields between them, or user commands. -/
inductive Piece
  | settings (fields : List (Option Setting))
  | userCommands (names : List String)

namespace Piece

def name : Piece → String
  | settings _ => "settings"
  | userCommands _ => "user_commands"

/-- What the piece sets. -/
def part : Piece → Part
  | settings fields => .settings (.ofList fields.reduceOption)
  | userCommands names => .userCommands names

/-- No setting is there twice. -/
def Distinct : Piece → Prop
  | settings fields => (fields.reduceOption.map Setting.name).Nodup
  | userCommands _ => True

instance : DecidablePred Distinct
  | settings _ => inferInstanceAs (Decidable (List.Nodup _))
  | userCommands _ => inferInstanceAs (Decidable True)

end Piece

/-- A part of a file as it is written, with unknown values that are nested down to some depth. -/
inductive PieceText (e : Extensions) (sure : Prop) (depth : Nat) : Piece → List Char → Prop
  | settings {fields : List (Option Setting)} {inside cs : List Char}
    (h : Listing (FieldText Setting.name (SettingText e) settingNames (Value e sure depth)) fields inside)
    (hr : RecordOf e "ConsoleSettings" inside cs) : PieceText e sure depth (.settings fields) cs
  | userCommands {names : List String} {gap inside : List Char} (hgap : Gap gap) (h : Listing (TextLiteral .text) names inside) :
    PieceText e sure depth (.userCommands names) ('[' :: (gap ++ (inside ++ [']'])))

/-- A whole file as it is written, with the extensions that the lines at its front name. Unknown values next to its parts may be nested
two levels deeper than the ones next to settings. -/
inductive FileText (e : Extensions) (sure : Prop) (depth : Nat) (pieces : List (Option Piece)) : List Char → Prop
  | mk {gap front inside record last : List Char} (hgap : Gap gap) (hfront : FrontText {} e front)
    (h : Listing (FieldText Piece.name (PieceText e sure depth) ["settings", "user_commands"] (Value e sure (depth + 2))) pieces inside)
    (hr : RecordOf e "ConsoleConfigFile" inside record) (hlast : LastGap last) :
    FileText e sure depth pieces (gap ++ (front ++ (record ++ last)))

/-- Where a file is clear, or nothing is written bare in it, it is sure what its unknown values are. -/
theorem FileText.sure {n : Nat} {pieces : List (Option Piece)} (h : FileText e False n pieces cs)
    (clear : e.bareVariants = true → Clear cs) : FileText e True n pieces cs := by
  have values : ∀ {n} vs, vs <:+: cs → Value e False n vs → Value e True n vs :=
    fun vs here h => h.sure fun bare => (clear bare).part here
  have part : ∀ piece vs, vs <:+: cs → PieceText e False n piece vs → PieceText e True n piece vs := by
    intro piece vs here h
    cases h with
    | settings h hr =>
      refine .settings (h.imp fun _ fs within field => field.imp (fun _ _ _ value => value) fun ws deeper => ?_) hr
      exact values ws (deeper.trans (within.trans (hr.inside_infix.trans here)))
    | userCommands hgap h => exact .userCommands hgap h
  obtain ⟨hgap, hfront, h, hr, hlast⟩ := h
  rename_i gap front inside record last
  have here : inside <:+: gap ++ (front ++ (record ++ last)) :=
    hr.inside_infix.trans ((List.prefix_append record last).isInfix.trans
      ((List.suffix_append front _).trans (List.suffix_append gap _)).isInfix)
  refine .mk hgap hfront (h.imp fun _ fs within field => field.imp (fun piece vs deeper => ?_) fun vs deeper => ?_) hr hlast
  · exact part piece vs (deeper.trans (within.trans here))
  · exact values vs (deeper.trans (within.trans here))

/-- No part of the file is there twice, and no setting. -/
def Distinct (pieces : List (Option Piece)) : Prop :=
  (∀ piece ∈ pieces.reduceOption, piece.Distinct) ∧ (pieces.reduceOption.map Piece.name).Nodup

instance (pieces : List (Option Piece)) : Decidable (Distinct pieces) := inferInstanceAs (Decidable (_ ∧ _))

/-- The configuration that the parts of a file make. -/
def ofPieces (pieces : List (Option Piece)) : Config :=
  (pieces.reduceOption.map Piece.part).foldl withPart {}

/-! ## Values are read -/

/-- A number starts like no space, comment or mark, and it is none of the words for optional values. -/
theorem start_of_single {x : Single} (h : SingleText x cs) :
    Opens cs ∧ ∀ rest, firstWord (cs ++ rest) ∉ ["None".toList, "Some".toList] := by
  obtain ⟨h, -⟩ := h
  refine ⟨opens_number (.number h), fun rest word => ?_⟩
  have others := firstWord_number (.number (.number h)) rest
  simp only [List.mem_cons, List.not_mem_nil, or_false, not_or] at others word
  exact word.elim others.2.2.2 others.2.2.1

theorem takes_single {x : Single} (h : SingleText x cs) : Takes Reader.single cs x := by
  refine takes (start_of_single h).1 fun {rest} behind => ?_
  obtain ⟨h, fine⟩ := h
  refine Reads.bind (reads_number_text h (behindNumber_follows behind cs)) ?_
  split
  · next double =>
    obtain ⟨-, rfl⟩ := Prod.mk.inj double
    exact absurd rfl fine
  · next same =>
    obtain ⟨rfl, -⟩ := Prod.mk.inj same
    exact Reads.pure x rest

theorem takes_bool (b : Bool) : Takes Reader.bool (if b then "true".toList else "false".toList) b := by
  refine takes ?_ fun {rest} behind => reads_bool b behind.ends
  cases b <;> exact opens_cons (by decide) _

/-- A color is made of its components, whatever their order. -/
theorem gives_components {c : Color} {inside : List Char} (h : ComponentsText c inside) (depth : Nat) :
    GivesInside (do colorOf c.space (← Reader.fields e c.space.name (depth + 1) (componentReader? c.space))) inside (· = some c) := by
  obtain ⟨horder, listing⟩ := h
  rename_i order
  have names : (order.map (·.1)).Perm c.space.components := by
    rw [← c.names_components]
    exact horder.map (·.1)
  let component (f : String × Single) (vs : List Char) : Prop := f.1 ∈ c.space.components ∧ SingleText f.2 vs
  have written : Listing (FieldText Prod.fst component c.space.components fun _ => False) (order.map some) inside := by
    refine listing.map fun f hf cs _ h => ?_
    obtain ⟨hk, hv, entry⟩ := h
    exact .known (.mk hk ⟨names.mem_iff.1 (List.mem_map_of_mem hf), hv⟩ entry)
  have knows : Knows True (componentReader? c.space) depth Prod.fst component Prod.snd fun _ => True := by
    rintro f vs ⟨known, hv⟩
    exact ⟨_, if_pos known, (takes_single hv).reading True⟩
  have all : (order.map some).reduceOption = order := by
    unfold List.reduceOption
    rw [List.filterMap_map]
    exact List.filterMap_some
  intro gap hgap rest
  have taken := gives_fields (e := e) c.space.name knows (fun _ new => if_neg new) (fun _ => False.elim) written gap hgap rest
  obtain ⟨result, reading, taken⟩ := taken
  rw [all] at reading
  have distinct : (order.map (·.1)).Nodup := names.nodup_iff.2 c.space.nodup_components
  obtain rfl := reading.eq_some trivial ⟨fun _ _ => trivial, by simpa [all] using distinct⟩
  exact ⟨_, rfl, Reads.bind taken (reads_colorOf (by simpa using horder) _)⟩

theorem opens_components {c : Color} (h : ComponentsText c cs) : cs = [] ∨ Opens cs := by
  obtain ⟨-, listing⟩ := h
  exact opens_listing (fun _ h => h) (listing.map (f := fun _ => ()) fun _ _ _ _ h => opens_named h)

theorem takes_color {c : Color} (h : ColorText e c cs) (depth : Nat) : Takes (readColor e (depth + 3)) cs c := by
  obtain ⟨hk, hgap, h⟩ := h
  let contents (bare : Bool) : Reader Color :=
    Reader.record e bare c.space.name (depth + 2) fun depth => do
      colorOf c.space (← Reader.fields e c.space.name depth (componentReader? c.space))
  refine yields_variant hk c.space.lookup_name hgap (fun _ h => fills_partOf contents (fun _ h => ?_) (fun _ h => ?_) h) h
  · obtain ⟨h, hr⟩ := h
    exact yields_record hr (gives_components h depth)
  · exact fills_record (opens_components h) (gives_components h depth)

/-- A point starts like no space, comment or mark, and with none of the words for optional values. -/
theorem start_of_point {p : Point} (h : PointText e p cs) : ∀ rest, firstWord (cs ++ rest) ∉ ["None".toList, "Some".toList] := by
  obtain ⟨-, h⟩ := h
  intro rest
  cases h with
  | unnamed _ _ =>
    have outside : Text.isIdentifierPart '(' = false := by simp
    rw [List.cons_append, firstWord_cons outside]
    simp
  | named hk _ =>
    have ends : ∀ more, Ends ('(' :: more) := fun more => ends_cons (by simp) more
    have parts : ∀ c ∈ "Vec2".toList, Text.isIdentifierPart c = true := by simp
    cases hk with
    | plain _ =>
      rw [List.append_assoc, List.cons_append, firstWord_append parts (ends _)]
      simp
    | raw _ _ =>
      have first : ∀ more, firstWord ('r' :: '#' :: more) = ['r'] := fun more => by simp [firstWord]
      rw [List.cons_append, List.cons_append, List.cons_append, List.cons_append, first]
      simp

theorem takes_point {p : Point} (h : PointText e p cs) (depth : Nat) : Takes (readPoint e false (depth + 2)) cs p := by
  obtain ⟨h, hp⟩ := h
  exact (takes_pair (fun _ _ h => takes_single h) h hp).map fun found : Single × Single => Point.mk found.1 found.2

theorem fills_point {p : Point} (h : PartOf e (PointText e p) (CoordinatesText p) cs) (depth : Nat) :
    Fills (readPoint e e.bareVariants (depth + 2)) cs (· = some p) := by
  refine fills_partOf (fun bare => readPoint e bare (depth + 2)) (fun _ h => takes_point h depth) (fun _ h => ?_) h
  have taken : Fills (Reader.pair e true "Vec2" (depth + 2) Reader.single) _ _ := fills_pair (fun _ _ h => takes_single h) h
  refine taken.map (fun found : Single × Single => Point.mk found.1 found.2) ?_
  rintro _ rfl
  rfl

/-- The reader for a setting takes its value. -/
theorem knows_settings (fits : Prop) (depth : Nat) :
    Knows fits (settingReader? e) (depth + 3) Setting.name (SettingText e) id fun _ => True := by
  intro s vs h
  cases h with
  | @color slot c _ h =>
    refine ⟨fun depth => return .color slot (← readColor e depth), by cases slot <;> rfl, ?_⟩
    exact ((takes_color h depth).map (Setting.color slot)).reading fits
  | @flag f b =>
    refine ⟨fun _ => return .flag f (← Reader.bool), by cases f <;> rfl, ?_⟩
    exact ((takes_bool b).map (Setting.flag f)).reading fits
  | @length side x _ h =>
    refine ⟨fun depth => return .length side (← Reader.optional e depth fun _ _ => Reader.single), by cases side <;> rfl, ?_⟩
    have taken : Takes (Reader.optional e (depth + 3) fun _ _ => Reader.single) vs x :=
      takes_optionalText (fun _ _ => Reader.single) (fun _ _ h => takes_single h) (fun _ _ h => fills_lone (fun _ h => takes_single h) h)
        (fun _ _ h rest _ => (start_of_single h).2 rest) h
    exact (taken.map (Setting.length side)).reading fits
  | @position p _ h =>
    refine ⟨fun depth => return .position (← Reader.optional e depth (readPoint e)), rfl, ?_⟩
    have taken : Takes (Reader.optional e (depth + 3) (readPoint e)) vs p :=
      takes_optionalText (readPoint e) (fun _ _ h => takes_point h depth) (fun _ _ h => fills_point h depth)
        (fun _ _ h rest _ => start_of_point h rest) h
    exact (taken.map Setting.position).reading fits

/-- There is no reader for the name of no setting. -/
theorem settingReader?_none {name : String} (h : name ∉ settingNames) : settingReader? e name = none := by
  have known : (∀ slot ∈ ColorSlot.all, slot.name ∈ settingNames) ∧ (∀ f ∈ Flag.all, f.name ∈ settingNames) ∧
      (∀ side ∈ Side.all, side.name ∈ settingNames) ∧ "position" ∈ settingNames := by decide
  have missing : ∀ {α : Type} {all : List α} {word : α → String}, (∀ a ∈ all, word a ∈ settingNames) →
      all.find? (word · == name) = none := by
    intro α all word known
    refine List.find?_eq_none.2 fun a ha same => h ?_
    rw [← eq_of_beq same]
    exact known a ha
  have other : name ≠ "position" := by
    rintro rfl
    exact h known.2.2.2
  unfold settingReader?
  rw [missing known.1, missing known.2.1, missing known.2.2.1]
  dsimp only
  rw [if_neg other]

/-! ## Files are read -/

variable {n : Nat} {sure : Prop}

/-- The reader for a part of a file takes nothing but the part. -/
theorem knows_pieces (n : Nat) :
    Knows (sure ∧ n ≤ 124) (partReader? e) 126 Piece.name (PieceText e sure n) Piece.part Piece.Distinct := by
  intro piece vs h
  cases h with
  | @settings fields inside _ h hr =>
    refine ⟨_, rfl, ?_⟩
    have contents := gives_parts "ConsoleSettings" (knows_settings (sure ∧ n ≤ 124) 121) (fun _ => settingReader?_none)
      (fun _ h => (skips_value h).skips 124) h Settings.ofList
    have distinct :
        (∀ s ∈ fields.reduceOption, True) ∧ (fields.reduceOption.map Setting.name).Nodup ↔ (Piece.settings fields).Distinct :=
      ⟨fun h => h.2, fun h => ⟨fun _ _ => trivial, h⟩⟩
    refine Yields.map Part.settings (yields_record hr contents) fun _ reading => ?_
    rw [List.map_id] at reading
    exact (reading.map Part.settings).congr distinct
  | @userCommands names gap inside hgap h =>
    refine ⟨_, rfl, ?_⟩
    have each : ∀ s cs, TextLiteral .text s cs → Takes Reader.text cs (id s) :=
      fun _ _ h => takes (opens_text h) fun _ => reads_textIn h _
    have taken : Takes (Reader.list 126 fun _ => Reader.text) ('[' :: (gap ++ (inside ++ [']']))) (names.map id) :=
      takes_list each hgap h
    rw [List.map_id] at taken
    exact (taken.map Part.userCommands).reading _

/-- Whatever has another name is no part of a file. -/
theorem partReader?_none {name : String} (h : name ∉ ["settings", "user_commands"]) : partReader? e name = none := by
  simp only [List.mem_cons, List.not_mem_nil, or_false, not_or] at h
  unfold partReader?
  rw [if_neg h.1, if_neg h.2]

/-- A file is read if the record in it is. -/
theorem gives_whole {gap front inside record last : List Char} (hgap : Gap gap) (hfront : FrontText {} e front)
    (hr : RecordOf e "ConsoleConfigFile" inside record) (hlast : LastGap last) {result : Option Config}
    (taken : Gives (reader e) (record ++ last) result last) :
    Gives (Reader.whole reader) (gap ++ (front ++ (record ++ last))) result [] := by
  have opens := (opens_recordOf hr).append last
  refine (reads_frontText hgap hfront opens.starts (recordOf_head hr last)).bind_gives ?_
  rw [← Option.bind_fun_some result]
  exact taken.bind fun config _ => (reads_lastGap hlast).bind ((reads_rest []).bind (Reads.pure config []))

/-- All that is read from a file is what it holds. -/
theorem gives_fileText {pieces : List (Option Piece)} (h : FileText e sure n pieces cs) :
    ∃ result, Gives (Reader.whole reader) cs result [] ∧ Reading (sure ∧ n ≤ 124) (Distinct pieces) (ofPieces pieces) result := by
  obtain ⟨hgap, hfront, h, hr, hlast⟩ := h
  rename_i record last
  have skips : ∀ cs, Value e sure (n + 2) cs → Skips (sure ∧ n ≤ 124) (Reader.skip e 126 false) cs :=
    fun _ h => ((skips_value h).skips 126).imp fun fit => ⟨fit.1, Nat.add_le_add_right fit.2 2⟩
  have contents := gives_parts "ConsoleConfigFile" (knows_pieces n) (fun _ => partReader?_none) skips h (List.foldl withPart {})
  obtain ⟨result, reading, taken⟩ : ∃ result, Reading (sure ∧ n ≤ 124) (Distinct pieces) (ofPieces pieces) result ∧
      Gives (reader e) (record ++ last) result last := gives_record hr contents last
  exact ⟨result, gives_whole hgap hfront hr hlast taken, reading⟩

/-- A text is a configuration if its reader gives one, and there is something wrong with it otherwise. -/
theorem parse_of_gives {text : String} {result : Option Config} (h : Gives (Reader.whole reader) text.toList result []) :
    match result with
    | some config => parse text = .ok config
    | none => ∃ why, parse text = .error why := by
  unfold parse Cursor.start
  cases result with
  | none =>
    obtain ⟨stop, h⟩ := h text.toList
    exact ⟨stop.message text.toList, by rw [h]⟩
  | some config =>
    obtain ⟨after, h⟩ := h text.toList
    dsimp only
    rw [h]

end Config

end DebugConsole
