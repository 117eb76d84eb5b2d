import DebugConsole.Config.Reader
import DebugConsole.Proofs.Notation.Structure

/-!
# Components of colors

A color is made of its components by their names, whatever their order. The names of the components and of the spaces are words.
-/

namespace DebugConsole

open Notation Notation.Reader

namespace ColorSpace

theorem isName_name (s : ColorSpace) : IsName s.name.toList := by
  cases s <;> exact isName_of_letters (by decide) (by decide)

theorem isName_of_mem_components {s : ColorSpace} {name : String} (h : name ∈ s.components) : IsName name.toList := by
  have letters : ∀ name ∈ s.components, name.toList ≠ [] ∧ ∀ c ∈ name.toList, isLetter c = true := by
    cases s <;> decide
  exact isName_of_letters (letters name h).1 (letters name h).2

end ColorSpace

namespace Config

/-- What has a name is found under it if no name is there twice. -/
theorem lookup_of_mem {α : Type} {list : List (String × α)} (distinct : (list.map (·.1)).Nodup) {name : String} {a : α}
    (h : (name, a) ∈ list) : list.lookup name = some a := by
  obtain ⟨before, after, rfl⟩ := List.append_of_mem h
  refine List.lookup_eq_some_iff.2 ⟨before, after, rfl, fun p hp => ?_⟩
  rw [List.map_append, List.map_cons] at distinct
  have apart := List.disjoint_of_nodup_append distinct (List.mem_map_of_mem hp)
  rw [bne_iff_ne]
  rintro rfl
  exact apart List.mem_cons_self

/-- A color is made of its components in any order. -/
theorem reads_colorOf {c : Color} {found : List (String × Single)} (h : found.Perm c.components) (rest : List Char) :
    Reads (colorOf c.space found) rest c rest := by
  have distinct : (found.map (·.1)).Nodup := by
    rw [(h.map (·.1)).nodup_iff, c.names_components]
    exact c.space.nodup_components
  have component : ∀ {name value}, (name, value) ∈ c.components → Reads (foundComponent c.space found name) rest value rest := by
    intro name value member
    rw [foundComponent, lookup_of_mem distinct (h.mem_iff.2 member)]
    exact Reads.pure value rest
  have first : (c.space.coordinates.1, c.first) ∈ c.components := List.mem_cons_self
  have second : (c.space.coordinates.2.1, c.second) ∈ c.components := List.mem_cons_of_mem _ List.mem_cons_self
  have third : (c.space.coordinates.2.2, c.third) ∈ c.components :=
    List.mem_cons_of_mem _ (List.mem_cons_of_mem _ List.mem_cons_self)
  have alpha : ("alpha", c.alpha) ∈ c.components :=
    List.mem_cons_of_mem _ (List.mem_cons_of_mem _ (List.mem_cons_of_mem _ List.mem_cons_self))
  exact (component first).bind ((component second).bind ((component third).bind ((component alpha).bind (Reads.pure c rest))))

end Config

end DebugConsole
