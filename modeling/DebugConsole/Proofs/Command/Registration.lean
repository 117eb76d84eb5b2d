import DebugConsole.Command.Registry
import DebugConsole.Proofs.Text.Lowercase

/-!
# Registered names

Names come into a registry in lower case, and none comes in that is there up to the case of A to Z. Of names in lower case this means
that none is there twice, so a registry that is built by registering and unregistering names is an `Orderly` set.

For an orderly registry the lemmas say what its operations do to the list of names: a new name goes to its end (`names_register`), and
so do the new ones of several names, each where it comes up first (`names_registerAll`).
-/

namespace DebugConsole

namespace Registry

/-- Names as they are stored: in lower case, and no two of them the same up to the case of A to Z. -/
structure Orderly (r : Registry) : Prop where
  lower : ∀ n ∈ r.names, Text.lowercase n = n
  distinct : r.names.Pairwise fun m n => Text.sameName m n = false

variable {r : Registry}

theorem orderly_empty : ({} : Registry).Orderly :=
  ⟨nofun, List.Pairwise.nil⟩

/-- In an orderly registry a name in lower case is found if it is there as it stands. -/
theorem Orderly.contains_lowercase (h : r.Orderly) (name : String) :
    r.contains (Text.lowercase name) = true ↔ Text.lowercase name ∈ r.names := by
  unfold contains
  rw [List.any_eq_true]
  constructor
  · rintro ⟨n, member, same⟩
    rw [← h.lower n member, Text.sameName_lowercase, h.lower n member] at same
    rwa [← same]
  · intro member
    exact ⟨_, member, Text.sameName_refl _⟩

/-- A name is added in lower case, behind the others, if it is not there yet. -/
theorem Orderly.names_register (h : r.Orderly) (name : String) :
    (r.register name).state.names =
      if Text.lowercase name ∈ r.names then r.names else r.names ++ [Text.lowercase name] := by
  unfold register
  by_cases there : Text.lowercase name ∈ r.names
  · rw [if_pos there, if_pos ((h.contains_lowercase name).2 there)]
  · rw [if_neg there, if_neg fun found => there ((h.contains_lowercase name).1 found)]

/-- A registered name is not registered again, which goes without a warning. -/
theorem Orderly.register_of_mem (h : r.Orderly) {name : String} (there : Text.lowercase name ∈ r.names) :
    r.register name = { answer := false, state := r } := by
  unfold register
  rw [if_pos ((h.contains_lowercase name).2 there)]

theorem Orderly.register (h : r.Orderly) (name : String) : (r.register name).state.Orderly := by
  by_cases there : Text.lowercase name ∈ r.names
  · rw [h.register_of_mem there]
    exact h
  · have names := h.names_register name
    rw [if_neg there] at names
    refine ⟨?_, ?_⟩
    · rw [names]
      intro n member
      rcases List.mem_append.1 member with old | new
      · exact h.lower n old
      · rw [List.mem_singleton.1 new, Text.lowercase_lowercase]
    · rw [names, List.pairwise_append]
      refine ⟨h.distinct, List.pairwise_singleton _ _, ?_⟩
      intro m old n new
      rw [List.mem_singleton.1 new, Bool.eq_false_iff, ne_eq]
      intro same
      exact there ((h.contains_lowercase name).1 (List.any_eq_true.2 ⟨m, old, same⟩))

/-- What is left of an orderly registry is orderly. -/
theorem Orderly.unregister (h : r.Orderly) (name : String) : (r.unregister name).state.Orderly :=
  ⟨fun n member => h.lower n (List.mem_of_mem_filter member), h.distinct.filter _⟩

theorem registerAll_cons (name : String) (names : List String) (r : Registry) :
    r.registerAll (name :: names) =
      { answer := (), state := ((r.register name).state.registerAll names).state
        log := (r.register name).log ++ ((r.register name).state.registerAll names).log } :=
  Outcome.foldl_log Registry.register names { answer := (), state := (r.register name).state, log := (r.register name).log }

theorem Orderly.registerAll (h : r.Orderly) (names : List String) : (r.registerAll names).state.Orderly := by
  induction names generalizing r with
  | nil => exact h
  | cons name names ih =>
    rw [registerAll_cons]
    exact ih (h.register name)

/-- Of several names those are added that are not there yet, in lower case, in their order and each of them once. -/
theorem Orderly.names_registerAll (h : r.Orderly) (names : List String) :
    (r.registerAll names).state.names =
      r.names ++ ((names.map Text.lowercase).filter fun n => n ∉ r.names).eraseDups := by
  induction names generalizing r with
  | nil =>
    rw [List.map_nil, List.filter_nil, List.eraseDups_nil, List.append_nil]
    rfl
  | cons name names ih =>
    have names_register := h.names_register name
    rw [registerAll_cons, ih (h.register name), List.map_cons]
    by_cases there : Text.lowercase name ∈ r.names
    · rw [if_pos there] at names_register
      rw [names_register, List.filter_cons_of_neg (by simp [there])]
    · -- The name goes to the end, and is not new any more for the names behind it.
      rw [if_neg there] at names_register
      rw [names_register, List.filter_cons_of_pos (by simp [there]), List.eraseDups_cons, List.filter_filter,
        List.append_assoc, List.singleton_append]
      congr 3
      apply List.filter_congr
      intro n _
      simp [beq_eq_decide, Bool.and_comm]

/-- Names that are all there are not added again, and none of them is warned of. -/
theorem Orderly.registerAll_of_subset (h : r.Orderly) {names : List String}
    (there : ∀ name ∈ names, Text.lowercase name ∈ r.names) : r.registerAll names = { answer := (), state := r } := by
  induction names with
  | nil => rfl
  | cons name names ih =>
    rw [registerAll_cons, h.register_of_mem (there name List.mem_cons_self)]
    simp only [ih fun n member => there n (List.mem_cons_of_mem name member), List.append_nil]

theorem Orderly.nodup (h : r.Orderly) : r.names.Nodup := by
  refine h.distinct.imp ?_
  rintro m _ apart rfl
  exact Bool.false_ne_true (apart.symm.trans (Text.sameName_refl m))

/-- Each of some distinct names is kept. -/
theorem eraseDups_of_nodup {names : List String} (h : names.Nodup) : names.eraseDups = names := by
  induction names with
  | nil => rfl
  | cons name names ih =>
    obtain ⟨fresh, distinct⟩ := List.nodup_cons.1 h
    have kept : names.filter (fun n => !n == name) = names := by
      rw [List.filter_eq_self]
      intro n member
      have other : n ≠ name := fun same => fresh (same ▸ member)
      simp [other]
    rw [List.eraseDups_cons, kept, ih distinct]

/-- The names of an orderly registry make it up again. -/
theorem Orderly.registerAll_names (h : r.Orderly) : (({} : Registry).registerAll r.names).state = r := by
  have lower : r.names.map Text.lowercase = r.names := (List.map_congr_left h.lower).trans (List.map_id' _)
  have names : (({} : Registry).registerAll r.names).state.names = r.names := by
    rw [orderly_empty.names_registerAll, lower]
    simp [eraseDups_of_nodup h.nodup]
  exact congrArg Registry.mk names

end Registry

end DebugConsole
