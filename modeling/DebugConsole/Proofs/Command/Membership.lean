import DebugConsole.Proofs.Command.Resolution
import DebugConsole.Proofs.Config.Application
import DebugConsole.Proofs.Text.PlainName

/-!
# Which names are registered

A registry is a set of names up to case, but it has two notions of case. Names are lower-cased when they are added, and they are compared
up to the case of A to Z when they are looked up or removed. For plain names this is the same, and for any other name it is not: it is
found under its lower-case form alone.

`Edit.about` is what an edit says of a name, going by lower-case forms. Every edit that takes effect does what it says of the forms
(`contains_edit`), so after any edits of a new registry the last one that is about a name decides (`registry_answers`).
-/

namespace DebugConsole

namespace Registry

/-- What an edit says of a name, if it is about it: that it is registered from then on, or that it is not. -/
def Edit.about (name : String) : Edit → Option Bool
  | .register other => if Text.lowercase other = Text.lowercase name then some true else none
  | .unregister other => if Text.lowercase other = Text.lowercase name then some false else none
  | .apply config => if Text.lowercase name ∈ config.userCommands.map Text.lowercase then some true else none

/-- Whether an edit does what it says. A name that is not plain is not found, so it is not removed. -/
def Edit.takesEffect : Edit → Bool
  | .unregister name => Text.isPlain name
  | _ => true

variable {r : Registry}

/-! ## Single edits -/

/-- After a name was registered, those are found that were found before, and the ones that are the same name as its form. -/
theorem contains_register (r : Registry) (name n : String) :
    (r.register name).state.contains n = (r.contains n || Text.sameName (Text.lowercase name) n) := by
  unfold register
  by_cases there : r.contains (Text.lowercase name) = true
  · rw [if_pos there]
    cases same : Text.sameName (Text.lowercase name) n with
    | false => exact (Bool.or_false _).symm
    | true =>
      -- What is there under the form is found under any other spelling of it.
      obtain ⟨stored, member, found⟩ := contains_iff.1 there
      rw [Bool.or_true]
      exact contains_iff.2 ⟨stored, member, Text.sameName_trans found same⟩
  · rw [if_neg there]
    simp [contains]

/-- After a name was unregistered, those are found that were found before and are not the same name. -/
theorem contains_unregister (r : Registry) (name n : String) :
    (r.unregister name).state.contains n = (r.contains n && !Text.sameName name n) := by
  rw [Bool.eq_iff_iff, Bool.and_eq_true, Bool.not_eq_true', contains_iff, contains_iff]
  unfold unregister
  constructor
  · rintro ⟨stored, member, same⟩
    obtain ⟨old, other⟩ := List.mem_filter.1 member
    refine ⟨⟨stored, old, same⟩, Bool.eq_false_iff.2 fun asked => ?_⟩
    rw [Text.sameName_trans same (Text.sameName_symm asked)] at other
    cases other
  · rintro ⟨⟨stored, old, same⟩, other⟩
    refine ⟨stored, List.mem_filter.2 ⟨old, ?_⟩, same⟩
    rw [Bool.not_eq_true', Bool.eq_false_iff]
    intro asked
    rw [Text.sameName_trans (Text.sameName_symm asked) same] at other
    cases other

theorem contains_registerAll (names : List String) (r : Registry) (n : String) :
    (r.registerAll names).state.contains n =
      (r.contains n || names.any fun name => Text.sameName (Text.lowercase name) n) := by
  induction names generalizing r with
  | nil => exact (Bool.or_false _).symm
  | cons name names ih => rw [registerAll_cons, ih, contains_register, List.any_cons, Bool.or_assoc]

/-- An edit that takes effect makes of a plain name what it says, and leaves it as it is if it is not about it. -/
theorem contains_edit {n : String} (plain : Text.isPlain n = true) (r : Registry) {e : Edit} (effect : e.takesEffect = true) :
    (r.edit e).contains n = (e.about n).getD (r.contains n) := by
  have form : ∀ name, Text.sameName (Text.lowercase name) n = decide (Text.lowercase name = Text.lowercase n) := by
    intro name
    rw [Bool.eq_iff_iff, decide_eq_true_iff, Text.sameName_lowercase_iff]
    exact and_iff_right plain
  cases e with
  | register name =>
    simp only [edit, contains_register, form, Edit.about]
    by_cases same : Text.lowercase name = Text.lowercase n <;> simp [same]
  | unregister name =>
    have spelled : Text.sameName name n = decide (Text.lowercase name = Text.lowercase n) := by
      rw [Bool.eq_iff_iff, decide_eq_true_iff, Text.sameName_iff_of_isPlain plain]
      exact and_iff_right effect
    simp only [edit, contains_unregister, spelled, Edit.about]
    by_cases same : Text.lowercase name = Text.lowercase n <;> simp [same]
  | apply config =>
    have listed : (config.userCommands.any fun name => Text.sameName (Text.lowercase name) n) =
        decide (Text.lowercase n ∈ config.userCommands.map Text.lowercase) := by
      rw [Bool.eq_iff_iff, decide_eq_true_iff, List.any_eq_true, List.mem_map]
      simp only [form, decide_eq_true_iff]
    simp only [edit, Config.addTo, contains_registerAll, listed, Edit.about]
    by_cases there : Text.lowercase n ∈ config.userCommands.map Text.lowercase <;> simp [there]

/-- A name that is found stays so unless it is unregistered. -/
theorem contains_edit_of_contains {name : String} (found : r.contains name = true) {e : Edit}
    (spared : ∀ other, e = .unregister other → Text.sameName other name = false) : (r.edit e).contains name = true := by
  cases e with
  | register other => rw [edit, contains_register, found, Bool.true_or]
  | unregister other =>
    rw [edit, contains_unregister, found, spared other rfl]
    rfl
  | apply config => rw [edit, Config.addTo, contains_registerAll, found, Bool.true_or]

/-- A name that was added in lower case is the same name as another one if that is plain and has this form. -/
theorem Orderly.sameName_iff (h : r.Orderly) {stored : String} (member : stored ∈ r.names) (name : String) :
    Text.sameName stored name = true ↔ Text.isPlain name = true ∧ stored = Text.lowercase name := by
  have lower := h.lower stored member
  rw [← lower, Text.sameName_lowercase_iff, lower]

/-- A name that is not plain is not found. -/
theorem Orderly.isPlain_of_contains (h : r.Orderly) {name : String} (found : r.contains name = true) :
    Text.isPlain name = true := by
  obtain ⟨stored, member, same⟩ := contains_iff.1 found
  exact ((h.sameName_iff member name).1 same).1

/-- A plain name is removed in its lower-case form, and the others stay in their order. -/
theorem Orderly.names_unregister (h : r.Orderly) (name : String) :
    (r.unregister name).state.names = if Text.isPlain name then r.names.erase (Text.lowercase name) else r.names := by
  unfold Registry.unregister
  cases plain : Text.isPlain name with
  | true =>
    rw [if_pos rfl, h.nodup.erase_eq_filter]
    refine List.filter_congr fun stored member => ?_
    rw [Bool.eq_iff_iff, Bool.not_eq_true', Bool.eq_false_iff, ne_eq, h.sameName_iff member, plain, bne_iff_ne]
    simp only [true_and, ne_eq]
  | false =>
    rw [if_neg Bool.false_ne_true]
    refine List.filter_eq_self.2 fun stored member => ?_
    rw [Bool.not_eq_true', Bool.eq_false_iff, ne_eq, h.sameName_iff member, plain]
    exact fun same => Bool.false_ne_true same.1

/-- An edit that takes no effect changes nothing. -/
theorem Orderly.edit_of_not_takesEffect (h : r.Orderly) {e : Edit} (effect : e.takesEffect = false) : r.edit e = r := by
  cases e with
  | unregister name =>
    have plain : Text.isPlain name = false := effect
    have names := h.names_unregister name
    rw [plain, if_neg Bool.false_ne_true] at names
    exact congrArg Registry.mk names
  | _ => cases effect

/-! ## Runs -/

/-- A name is new if its form is not found. -/
theorem answer_register (r : Registry) (name : String) : (r.register name).answer = !r.contains (Text.lowercase name) := by
  unfold register
  cases found : r.contains (Text.lowercase name) <;> simp [found]

theorem Edit.about_lowercase (name : String) : Edit.about (Text.lowercase name) = Edit.about name := by
  funext e
  cases e <;> simp only [Edit.about, Text.lowercase_lowercase]

/-- What the last edit says of a name that is about it and takes effect. -/
def lastSaid (edits : List Edit) (name : String) : Option Bool :=
  ((edits.filter Edit.takesEffect).filterMap (Edit.about name)).getLast?

/-- A plain name is found after some edits if the last one that is about it says so. -/
theorem contains_edits {n : String} (plain : Text.isPlain n = true) (h : r.Orderly) (edits : List Edit) :
    (edits.foldl edit r).contains n = (lastSaid edits n).getD (r.contains n) := by
  unfold lastSaid
  induction edits generalizing r with
  | nil => rfl
  | cons e edits ih =>
    rw [List.foldl_cons, ih (h.edit e)]
    cases effect : e.takesEffect with
    | true =>
      rw [List.filter_cons_of_pos effect, contains_edit plain r effect]
      cases said : e.about n with
      | none => rw [List.filterMap_cons_none said, Option.getD_none]
      | some found => rw [List.filterMap_cons_some said, List.getLast?_cons, Option.getD_some, Option.getD_some]
    | false => rw [List.filter_cons_of_neg (by simp [effect]), h.edit_of_not_takesEffect effect]

/-- A new registry finds a plain name after some edits if the last one that is about it has registered it. -/
theorem contains_edited {n : String} (plain : Text.isPlain n = true) (edits : List Edit) :
    (edited edits).contains n = true ↔ lastSaid edits n = some true := by
  have found := contains_edits plain orderly_empty edits
  unfold edited
  rw [found]
  cases lastSaid edits n with
  | none => simp [contains]
  | some said => simp

/-- After any edits of a new registry, what is answered about a name depends on the last edit that took effect and was about a name with
the same lower-case form. A plain name is found if this edit has registered it, and a name that is not plain is never found. Registering
a name answers whether it was not there in lower case, and removing a name answers whether it was found. What is removed is the one entry
that has the form of the name, if the name is plain, and the others stay in their order. So as long as no other capital letters than A to Z
are looked up or removed, the registry is a set of names up to case: the last edit about a name decides, and a name is registered anew if
and only if it was not found. -/
theorem registry_answers (edits : List Edit) (name : String) :
    let r := edited edits
    (r.contains name = true ↔ Text.isPlain name = true ∧ lastSaid edits name = some true) ∧
    ((r.register name).answer = true ↔ lastSaid edits name ≠ some true) ∧
    ((r.unregister name).answer = true ↔ r.contains name = true) ∧
    ((r.unregister name).state.names = if Text.isPlain name then r.names.erase (Text.lowercase name) else r.names) ∧
    (Text.isPlain name = true → (∀ e ∈ edits, e.takesEffect = true) →
      (r.contains name = true ↔ (edits.filterMap (Edit.about name)).getLast? = some true) ∧
      ((r.register name).answer = true ↔ r.contains name = false)) := by
  intro r
  have orderly : r.Orderly := orderly_edited edits
  have registered : (r.register name).answer = true ↔ lastSaid edits name ≠ some true := by
    have found := contains_edited (Text.isPlain_lowercase name) edits
    rw [lastSaid, Edit.about_lowercase, ← lastSaid] at found
    rw [answer_register, Bool.not_eq_true', Bool.eq_false_iff, ne_eq, found]
  refine ⟨?_, registered, Iff.rfl, orderly.names_unregister name, ?_⟩
  · constructor
    · intro found
      have plain := orderly.isPlain_of_contains found
      exact ⟨plain, (contains_edited plain edits).1 found⟩
    · rintro ⟨plain, said⟩
      exact (contains_edited plain edits).2 said
  · intro plain effects
    have said : lastSaid edits name = (edits.filterMap (Edit.about name)).getLast? := by
      rw [lastSaid, List.filter_eq_self.2 effects]
    rw [Bool.eq_false_iff, ne_eq, contains_edited plain edits, ← said]
    exact ⟨Iff.rfl, registered⟩

/-- A name in another case is the one that was registered, and is not registered a second time. -/
theorem registry_answers_spawn :
    let edits : List Edit := [.register "Spawn", .unregister "SPAWN", .register "\u00c9", .register "SPAWN"]
    let r := edited edits
    r.contains "sPaWn" = true ∧ (r.register "sPaWn").answer = false ∧ (r.unregister "sPaWn").answer = true ∧
      (r.unregister "sPaWn").state.names = ["\u00e9"] := by
  intro edits r
  obtain ⟨-, -, unregistered, left, same⟩ := registry_answers edits "sPaWn"
  obtain ⟨found, new⟩ := same (by decide +kernel) (by decide +kernel)
  have there : r.contains "sPaWn" = true := found.2 (by decide +kernel)
  refine ⟨there, ?_, unregistered.2 there, left.trans (by decide +kernel)⟩
  rw [Bool.eq_false_iff, ne_eq, new, there]
  exact Bool.noConfusion

/-- An accented capital letter is a capital letter like any other when a name is registered, and is not when it is looked up or removed. -/
theorem registered_but_not_found :
    let r := edited [.register "\u00c9"]
    r.names = ["\u00e9"] ∧ Edit.about "\u00c9" (.register "\u00c9") = some true ∧ r.contains "\u00c9" = false ∧
      (r.register "\u00c9").answer = false ∧ (r.unregister "\u00c9").answer = false ∧
      (r.unregister "\u00c9").state.names = ["\u00e9"] := by
  decide +kernel

end Registry

end DebugConsole
