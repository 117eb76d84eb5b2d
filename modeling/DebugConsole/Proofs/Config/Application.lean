import DebugConsole.Proofs.Command.Registration
import DebugConsole.Session

/-!
# Applying configurations

A configuration that is applied to a session replaces the settings of its console and adds names to its registry. What matters of the
registry is that it is orderly (`Registry.orderly_edited`): then the new names go behind the ones that are there, each of them once,
and a second time there is nothing left to add. The names that are captured from such a registry make up the same registry again.
-/

namespace DebugConsole

namespace Registry

/-- What is done to a registry. -/
inductive Edit
  | register (name : String)
  | unregister (name : String)
  /-- The names of a configuration are added. -/
  | apply (config : Config)

/-- The registry after an edit. -/
def edit (r : Registry) : Edit → Registry
  | .register name => (r.register name).state
  | .unregister name => (r.unregister name).state
  | .apply config => (config.addTo r).state

/-- A new registry after some edits. -/
def edited (edits : List Edit) : Registry :=
  edits.foldl edit {}

theorem Orderly.edit {r : Registry} (h : r.Orderly) (e : Edit) : (r.edit e).Orderly := by
  cases e with
  | register name => exact h.register name
  | unregister name => exact h.unregister name
  | apply config => exact h.registerAll config.userCommands

/-- Whatever is done to a registry, it is orderly. -/
theorem orderly_edited (edits : List Edit) : (edited edits).Orderly := by
  have keep : ∀ r : Registry, r.Orderly → (edits.foldl Registry.edit r).Orderly := by
    induction edits with
    | nil => exact fun _ h => h
    | cons e edits ih => exact fun r h => ih (r.edit e) (h.edit e)
  exact keep {} orderly_empty

end Registry

namespace Session

/-- A configuration replaces the settings of the console, adds the names that are new, and leaves the rest of a session alone. -/
theorem state_apply {s : Session} (h : s.registry.Orderly) (config : Config) :
    (s.apply config).state = { s with
      console := s.console.withSettings config.settings
      registry.names := s.registry.names ++
        ((config.userCommands.map Text.lowercase).filter fun n => n ∉ s.registry.names).eraseDups } := by
  rw [← h.names_registerAll]
  rfl

/-- The names that a configuration has added are all there, so it adds none a second time. -/
theorem apply_again {s : Session} (h : s.registry.Orderly) (config : Config) :
    (s.apply config).state.apply config = { answer := (), state := (s.apply config).state } := by
  have orderly : (config.addTo s.registry).state.Orderly := h.registerAll config.userCommands
  have there : ∀ name ∈ config.userCommands, Text.lowercase name ∈ (config.addTo s.registry).state.names := by
    intro name member
    rw [Config.addTo, h.names_registerAll, List.mem_append, List.mem_eraseDups, List.mem_filter]
    by_cases old : Text.lowercase name ∈ s.registry.names
    · exact Or.inl old
    · exact Or.inr ⟨List.mem_map_of_mem member, decide_eq_true old⟩
  have added : config.addTo (config.addTo s.registry).state = { answer := (), state := (config.addTo s.registry).state } :=
    orderly.registerAll_of_subset there
  simp only [apply, added]
  rfl

/-- A registry is a set, whatever is done to it: its names are in lower case and distinct up to the case of A to Z. So a configuration
that is applied to a session gives its console the settings of the configuration, and its registry the names that were there, followed
by those of the configuration that were not, in lower case, in their order and each of them once. Applied again it changes nothing and
warns of nothing. The configuration that is captured from the session gives a new one the same settings and the same registry. -/
theorem configuration_kept (edits : List Registry.Edit) (s : Session) (config : Config) :
    let before : Session := { s with registry := Registry.edited edits }
    let after := (before.apply config).state
    let copy := (({} : Session).apply before.config).state
    (before.registry.names.Pairwise fun m n => Text.sameName m n = false) ∧
    (∀ n ∈ before.registry.names, Text.lowercase n = n) ∧
    after.console = { before.console with settings := config.settings } ∧
    after.registry.names = before.registry.names ++
      ((config.userCommands.map Text.lowercase).filter fun n => n ∉ before.registry.names).eraseDups ∧
    after.apply config = { answer := (), state := after } ∧
    copy.console = { settings := before.console.settings } ∧ copy.registry = before.registry := by
  intro before after copy
  have orderly : before.registry.Orderly := Registry.orderly_edited edits
  have applied := state_apply orderly config
  refine ⟨orderly.distinct, orderly.lower, ?_, ?_, apply_again orderly config, rfl, orderly.registerAll_names⟩
  · exact congrArg Session.console applied
  · exact congrArg (fun s => s.registry.names) applied

/-- A Kelvin sign is a small k in lower case, so the name that it starts is there already. -/
example :
    let before : Session := { registry := .edited [.register "Kill", .register "spawn", .unregister "SPAWN"] }
    (before.apply { userCommands := ["Ping", "\u212aill", "PING", "Spawn"] }).state.registry.names = ["kill", "ping", "spawn"] := by
  decide +kernel

end Session

end DebugConsole
