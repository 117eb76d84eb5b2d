import DebugConsole.Proofs.Notation.Record
import Mathlib.Data.List.ReduceOption

/-!
# Known and unknown fields

The fields of a record come in any order, some of them known and others not (`FieldText`). They are read one after the other, up to the
first one that its reader stops in or that was there before. So a record is read as its known fields if all is well with these and no two
have the same name, and not at all otherwise (`Reader.gives_fields`).
-/

namespace DebugConsole

namespace Notation

variable {α β γ : Type}

/-- An entry with a name and a value. -/
inductive NamedText (name : String) (value : List Char → Prop) : List Char → Prop
  | mk {ks vs cs : List Char} (hk : Name name ks) (hv : value vs) (entry : Entry ks vs cs) : NamedText name value cs

/-- A field as it is written: a known one with its value, or one with another name and another value. -/
inductive FieldText (name : α → String) (value : α → List Char → Prop) (names : List String) (other : List Char → Prop) :
    Option α → List Char → Prop
  | known {a : α} {cs : List Char} (h : NamedText (name a) (value a) cs) : FieldText name value names other (some a) cs
  | unknown {word : String} {cs : List Char} (new : word ∉ names) (h : NamedText word other cs) :
    FieldText name value names other none cs

/-- A field may be written with other values. -/
theorem FieldText.imp {name : α → String} {names : List String} {value value' : α → List Char → Prop} {other other' : List Char → Prop}
    {field : Option α} {cs : List Char} (values : ∀ a vs, vs <:+: cs → value a vs → value' a vs)
    (others : ∀ vs, vs <:+: cs → other vs → other' vs) (h : FieldText name value names other field cs) :
    FieldText name value' names other' field cs := by
  cases h with
  | known h =>
    obtain ⟨hk, hv, entry⟩ := h
    exact .known (.mk hk (values _ _ entry.value_infix hv) entry)
  | unknown new h =>
    obtain ⟨hk, hv, entry⟩ := h
    exact .unknown new (.mk hk (others _ entry.value_infix hv) entry)

namespace Reader

variable {cs inside : List Char} {e : Extensions} {fits fine : Prop}

theorem opens_named {word : String} {value : List Char → Prop} (h : NamedText word value cs) : Opens cs := by
  obtain ⟨hk, -, entry⟩ := h
  cases entry
  exact (opens_name hk).append _

/-! ## What comes of reading -/

/-- Nothing but a value can come of reading, and only if all is well with it. It does so if the text fits, too. -/
structure Reading (fits fine : Prop) (value : α) (result : Option α) : Prop where
  eq : ∀ a, result = some a → a = value ∧ fine
  isSome : fits → fine → result.isSome = true

/-- A value that is changed after it was read. -/
theorem Reading.map {value : α} {result : Option α} (f : α → β) (h : Reading fits fine value result) :
    Reading fits fine (f value) (result.map f) where
  eq := by
    intro b hb
    obtain ⟨a, ha, rfl⟩ := Option.map_eq_some_iff.1 hb
    obtain ⟨rfl, well⟩ := h.eq a ha
    exact ⟨rfl, well⟩
  isSome := by
    intro fit well
    rw [Option.isSome_map]
    exact h.isSome fit well

theorem Reading.congr {other : Prop} {value : α} {result : Option α} (h : Reading fits fine value result) (same : fine ↔ other) :
    Reading fits other value result :=
  ⟨fun a ha => ⟨(h.eq a ha).1, same.1 (h.eq a ha).2⟩, fun fit well => h.isSome fit (same.2 well)⟩

/-- What is read and all well with is the value. -/
theorem Reading.eq_some {value : α} {result : Option α} (h : Reading fits fine value result) (fit : fits) (well : fine) :
    result = some value := by
  obtain ⟨a, rfl⟩ := Option.isSome_iff_exists.1 (h.isSome fit well)
  exact congrArg some (h.eq a rfl).1

theorem Takes.reading {r : Reader α} {a : α} (h : Takes r cs a) (fits : Prop) : Yields r cs (Reading fits True a) := by
  refine Yields.imp h ?_
  rintro _ rfl
  exact ⟨fun _ same => ⟨(Option.some.inj same).symm, trivial⟩, fun _ _ => rfl⟩

/-! ## One field -/

/-- Takes a field. -/
def fieldPart (e : Extensions) (record : String) (depth : Nat) (known : String → Option (Nat → Reader α))
    (found : List (String × α)) : Reader (List (String × α)) := do
  let field ← deeper depth fun _ => name
  match known field with
  | none => do
    colon
    deeper depth fun depth => skip e depth false
    return found
  | some reader => do
    if found.any (·.1 = field) then fail (.duplicateField field record)
    colon
    let value ← deeper depth reader
    return found ++ [(field, value)]

/-- Fields are read round by round. -/
theorem fields_eq (e : Extensions) (record : String) (depth : Nat) (known : String → Option (Nat → Reader α)) :
    fields e record depth known = (do
      let (found, _) ← iterate (roundOf ')' (fieldPart e record depth known)) ([], true)
      return found) := by
  have round : roundOf ')' (fieldPart e record depth known) = fun (found, more) => do
      spaces
      if !more || (← peek?) = some ')' then return none
      let field ← deeper depth fun _ => name
      match known field with
      | none => do
        colon
        deeper depth fun depth => skip e depth false
        return some (found, ← comma)
      | some reader => do
        if found.any (·.1 = field) then fail (.duplicateField field record)
        colon
        let value ← deeper depth reader
        return some (found ++ [(field, value)], ← comma) := by
    funext s
    simp only [roundOf, fieldPart, bind_assoc]
    refine bind_congr fun _ => bind_congr fun _ => if_congr Iff.rfl rfl (bind_congr fun field => ?_)
    cases known field with
    | none => simp only [bind_assoc, pure_bind]
    | some reader =>
      dsimp only
      split <;> simp only [bind_assoc, pure_bind]
  rw [round]
  rfl

section

variable {f : String → Reader β} {word : String} {ks vs : List Char} {outcome : Option β → Prop}

/-- An entry with a name comes to what its value comes to. -/
theorem yields_named {item : Reader β} (hk : Name word ks) (goes_on : f word = do colon; item) (h : Yields item vs outcome)
    (entry : Entry ks vs cs) : Yields (do f (← name)) cs outcome := by
  cases entry with
  | @mk before behind hb hb' =>
    refine ⟨(opens_name hk).append _, ?_⟩
    intro gap hgap c mark more
    obtain ⟨result, come, left, hleft, value⟩ := h.gives hgap mark more
    have text : ks ++ (before ++ ':' :: (behind ++ vs)) ++ (gap ++ c :: more) =
        ks ++ (before ++ ':' :: (behind ++ (vs ++ (gap ++ c :: more)))) := by
      simp only [List.append_assoc, List.cons_append]
    refine ⟨result, come, left, hleft, ?_⟩
    rw [text]
    refine (reads_name_written hk (endsName_gap hb (by decide) _)).bind_gives ?_
    rw [goes_on]
    exact (reads_colon_gaps hb hb' (h.opens.append _).starts).bind_gives value

/-- A reader that stops at the name of an entry stops in the entry. -/
theorem yields_named_stops (hk : Name word ks) (stops : ∀ cs, Stops (f word) cs) (entry : Entry ks vs cs) :
    Yields (do f (← name)) cs (· = none) := by
  cases entry with
  | @mk before behind hb hb' =>
    refine yields ((opens_name hk).append _) fun {rest} _ => ⟨none, rfl, ?_⟩
    rw [List.append_assoc, List.append_assoc]
    exact (reads_name_written hk (endsName_gap hb (by decide) _)).bind_gives (stops _)

end

variable {name : α → String} {value : α → List Char → Prop} {names : List String} {other : List Char → Prop} {depth : Nat}
variable {known : String → Option (Nat → Reader β)} {part : α → β} {well : α → Prop}

/-- There is a reader for the value of every known field, and all that it takes is the part for the field. -/
def Knows (fits : Prop) (known : String → Option (Nat → Reader β)) (depth : Nat) (name : α → String) (value : α → List Char → Prop)
    (part : α → β) (well : α → Prop) : Prop :=
  ∀ a vs, value a vs → ∃ reader, known (name a) = some reader ∧ Yields (reader depth) vs (Reading fits (well a) (part a))

/-- What may come of a field with the known ones found so far: it is found as well if it is known, unless it was there before. -/
def Found (fits : Prop) (named : α → String × β) (well : α → Prop) (found : List (String × β)) (field : Option α)
    (result : Option (List (String × β))) : Prop :=
  Reading fits (∀ a, field = some a → well a ∧ (named a).1 ∉ found.map (·.1)) (found ++ (field.map named).toList) result

/-- A field with a name is among the ones that were found. -/
theorem any_name {found : List (String × β)} {name : String} : found.any (·.1 = name) = true ↔ name ∈ found.map (·.1) := by
  simp only [List.any_eq_true, decide_eq_true_eq, List.mem_map]

/-- A field is read as it is written. -/
theorem yields_field (record : String) (knows : Knows fits known depth name value part well)
    (unknown : ∀ word, word ∉ names → known word = none) (skips : ∀ cs, other cs → Skips fits (skip e depth false) cs)
    (found : List (String × β)) (field : Option α) (h : FieldText name value names other field cs) :
    Yields (fieldPart e record (depth + 1) known found) cs (Found fits (fun a => (name a, part a)) well found field) := by
  cases h with
  | @unknown word _ new h =>
    obtain ⟨hk, hv, entry⟩ := h
    rename_i ks vs
    have skipped : Yields (do
        deeper (depth + 1) fun depth => skip e depth false
        return found) vs (Found fits (fun a => (name a, part a)) well found none) := by
      refine Yields.map (fun _ => found) (skips _ hv) fun result isSome => ⟨fun fields same => ?_, fun fit _ => ?_⟩
      · obtain ⟨-, -, rfl⟩ := Option.map_eq_some_iff.1 same
        exact ⟨(List.append_nil found).symm, nofun⟩
      · rw [Option.isSome_map]
        exact isSome fit
    refine yields_named hk ?_ skipped entry
    rw [unknown word new]
  | @known a _ h =>
    obtain ⟨hk, hv, entry⟩ := h
    rename_i ks vs
    obtain ⟨reader, is_known, read⟩ := knows a vs hv
    by_cases twice : found.any (·.1 = name a) = true
    · refine Yields.imp (yields_named_stops hk (fun cs => ?_) entry) ?_
      · rw [is_known]
        dsimp only
        rw [if_pos twice]
        exact Stops.bind (stops_fail _ cs) _
      · rintro _ rfl
        exact ⟨nofun, fun _ fine => absurd (any_name.1 twice) (fine a rfl).2⟩
    · have taken : Yields (do return found ++ [(name a, ← reader depth)]) vs
          (Found fits (fun a => (name a, part a)) well found (some a)) := by
        refine read.map (fun value => found ++ [(name a, value)]) fun result reading => ?_
        refine (reading.map fun value => found ++ [(name a, value)]).congr ⟨fun fine b same => ?_, fun fine => (fine a rfl).1⟩
        cases same
        exact ⟨fine, fun member => twice (any_name.2 member)⟩
      refine yields_named hk ?_ taken entry
      rw [is_known]
      dsimp only
      rw [if_neg twice]
      rfl

/-! ## All fields -/

variable {named : α → String × β} {fields : List (Option α)}

/-- All well with the fields of a record: it is so with each of the known ones, and no two of these or of those found before have the same
name. -/
def AllWell (named : α → String × β) (well : α → Prop) (found : List (String × β)) (fields : List (Option α)) : Prop :=
  (∀ a ∈ fields.reduceOption, well a) ∧ ((found ++ fields.reduceOption.map named).map (·.1)).Nodup

/-- One more name is new if it is not among the others. -/
theorem nodup_names {found : List (String × β)} {field : String × β} :
    ((found ++ [field]).map (·.1)).Nodup ↔ field.1 ∉ found.map (·.1) ∧ (found.map (·.1)).Nodup := by
  rw [List.map_append, List.map_singleton, ← List.concat_eq_append, List.nodup_concat]

/-- All is well with some fields if it is so with the first one and then with the others. -/
theorem allWell_cons {found : List (String × β)} {field : Option α} :
    AllWell named well found (field :: fields) ↔
      (∀ a, field = some a → well a) ∧ AllWell named well (found ++ (field.map named).toList) fields := by
  cases field with
  | none => simp [AllWell]
  | some a => simp [AllWell, and_assoc]

/-- The known fields are what is found if all is well with them. -/
theorem reading_folds {found : List (String × β)} {result : Option (List (String × β))} (distinct : (found.map (·.1)).Nodup)
    (h : Folds (Found fits named well) fields found result) :
    Reading fits (AllWell named well found fields) (found ++ fields.reduceOption.map named) result := by
  induction h with
  | nil found =>
    have all : AllWell named well found [] := ⟨nofun, by rwa [List.reduceOption_nil, List.map_nil, List.append_nil]⟩
    exact ⟨fun _ same => ⟨by rw [← Option.some.inj same, List.reduceOption_nil, List.map_nil, List.append_nil], all⟩, fun _ _ => rfl⟩
  | @stop found field fields stopped =>
    refine ⟨nofun, fun fit all => stopped.isSome fit fun a same => ?_⟩
    subst same
    obtain ⟨first, others⟩ := allWell_cons.1 all
    have front := others.2
    rw [List.map_append] at front
    exact ⟨first a rfl, (nodup_names.1 front.of_append_left).1⟩
  | @cons found next field fields result h _ ih =>
    obtain ⟨rfl, fine⟩ := h.eq next rfl
    have still : ((found ++ (field.map named).toList).map (·.1)).Nodup := by
      cases field with
      | none => simpa using distinct
      | some a => exact nodup_names.2 ⟨(fine a rfl).2, distinct⟩
    have same : found ++ (field.map named).toList ++ fields.reduceOption.map named =
        found ++ (field :: fields).reduceOption.map named := by
      cases field <;> simp
    rw [same] at ih
    refine (ih still).congr ?_
    rw [allWell_cons]
    exact ⟨fun all => ⟨fun a here => (fine a here).1, all⟩, And.right⟩

variable {fields : List (Option α)}

/-- Fields are read up to the closing parenthesis as what is known of them. -/
theorem gives_fields (record : String) (knows : Knows fits known depth name value part well)
    (unknown : ∀ word, word ∉ names → known word = none) (skips : ∀ cs, other cs → Skips fits (skip e depth false) cs)
    (h : Listing (FieldText name value names other) fields inside) :
    GivesInside (Reader.fields e record (depth + 1) known) inside
      (Reading fits (AllWell (fun a => (name a, part a)) well [] fields) (fields.reduceOption.map fun a => (name a, part a))) := by
  intro gap hgap rest
  have close : ')' ∈ marks ∧ ')' ≠ ',' := by decide
  have step : ∀ found field cs, FieldText name value names other field cs →
      Yields (fieldPart e record (depth + 1) known found) cs (Found fits (fun a => (name a, part a)) well found field) :=
    fun found field _ h => yields_field record knows unknown skips found field h
  obtain ⟨result, folds, more, rounds⟩ := gives_rounds close.1 close.2 step hgap h [] rest
  have same : result = (result.map fun t => (t, more)).bind fun t => some t.1 := by cases result <;> rfl
  refine ⟨result, reading_folds List.nodup_nil folds, ?_⟩
  rw [fields_eq, same]
  exact rounds.bind fun t _ => Reads.pure t.1 _

/-- What a record is that is made of the values of its fields. -/
theorem gives_parts (record : String) (knows : Knows fits known depth name value part well)
    (unknown : ∀ word, word ∉ names → known word = none) (skips : ∀ cs, other cs → Skips fits (skip e depth false) cs)
    (h : Listing (FieldText name value names other) fields inside) (f : List β → γ) :
    GivesInside (do return f ((← Reader.fields e record (depth + 1) known).map (·.2))) inside
      (Reading fits ((∀ a ∈ fields.reduceOption, well a) ∧ (fields.reduceOption.map name).Nodup) (f (fields.reduceOption.map part))) := by
  intro gap hgap rest
  obtain ⟨result, reading, taken⟩ := gives_fields record knows unknown skips h gap hgap rest
  have made := reading.map fun found => f (found.map (·.2))
  rw [List.map_map] at made
  refine ⟨_, made.congr ?_, taken.map fun found => f (found.map (·.2))⟩
  rw [AllWell, List.nil_append, List.map_map]
  exact Iff.rfl

end Reader

end Notation

end DebugConsole
