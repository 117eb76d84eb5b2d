import DebugConsole.Directory

/-!
# Files read back

A file that was written is read with the text that was written (`Directory.read_write`), and so is one that was saved. What a name
leads to changes in one place only, and a file never takes the place of a folder, so every path leads where it led before.
-/

namespace DebugConsole

namespace Directory

variable {d : Directory} {target names folder : List String} {e : Entry} {path text : String}

/-! ## One place changes -/

/-- What was put in a place is there. -/
theorem entry?_put (nonempty : target ≠ []) : entry? (d.put target e) target = some e := by
  have others : (d.entries.filter fun other => other.1 ≠ target).find? (fun other => other.1 = target) = none := by
    rw [List.find?_eq_none]
    intro other member
    simpa using (List.mem_filter.mp member).2
  unfold entry? put
  rw [if_neg nonempty, List.find?_append, others]
  simp

/-- All other places stay as they are. -/
theorem entry?_put_other (h : names ≠ target) : entry? (d.put target e) names = d.entry? names := by
  unfold entry? put
  rw [List.find?_append, List.find?_filter]
  have kept : (fun other : List String × Entry => decide (decide (other.1 ≠ target) = true ∧ decide (other.1 = names) = true)) =
      fun other => decide (other.1 = names) := by
    funext other
    by_cases same : other.1 = names
    · simp [same, h]
    · simp [same]
  have elsewhere : [(target, e)].find? (fun other => other.1 = names) = none := by
    simpa using Ne.symm h
  rw [kept, elsewhere, Option.or_none]

/-- A folder stays a folder if nothing is put in its place. -/
theorem entry?_put_folder (no_folder : d.entry? target ≠ some .folder) (h : d.entry? names = some .folder) :
    entry? (d.put target e) names = some .folder := by
  have other : names ≠ target := by
    rintro rfl
    exact no_folder h
  rw [entry?_put_other other, h]

/-! ## Paths lead where they led -/

/-- A folder that can be entered can be entered afterwards. -/
theorem enter_put (no_folder : d.entry? target ≠ some .folder) {here next : List String} {name : String}
    (h : d.enter here name = .ok next) : (d.put target e).enter here name = .ok next := by
  unfold enter lookUp at h ⊢
  split at h
  · next stay => rw [if_pos stay, h]
  · next stay =>
    rw [if_neg stay]
    split at h
    · next up => rw [if_pos up, h]
    · next up =>
      rw [if_neg up]
      by_cases long : 255 < name.utf8ByteSize
      · rw [if_pos long] at h
        exact absurd h (by simp)
      · rw [if_neg long] at h ⊢
        cases found : d.entry? (here ++ [name]) with
        | none => rw [found] at h; exact absurd h (by simp)
        | some entry =>
          rw [found] at h
          cases entry with
          | file text => exact absurd h (by simp)
          | folder => rw [entry?_put_folder no_folder found]; exact h

/-- Folders that can be walked through can be walked through afterwards. -/
theorem walk_put (no_folder : d.entry? target ≠ some .folder) {here there : List String}
    (h : names.foldlM d.enter here = .ok there) : names.foldlM (d.put target e).enter here = .ok there := by
  induction names generalizing here with
  | nil => exact h
  | cons name names ih =>
    rw [List.foldlM_cons] at h ⊢
    cases entered : d.enter here name with
    | error err => rw [entered] at h; exact absurd h (by simp [bind, Except.bind])
    | ok next =>
      rw [entered] at h
      rw [enter_put no_folder entered]
      exact ih h

/-- A path that leads somewhere leads there afterwards. -/
theorem locate_put (no_folder : d.entry? target ≠ some .folder) {place : Place} (h : d.locate path = .ok place) :
    (d.put target e).locate path = .ok place := by
  unfold locate at h ⊢
  split at h
  · exact absurd h (by simp)
  next no_null =>
  split at h
  · exact absurd h (by simp)
  next nonempty =>
  split at h
  · exact absurd h (by simp)
  next short =>
  rw [if_neg no_null, if_neg nonempty, if_neg short]
  dsimp only at h ⊢
  split at h
  · exact h
  next last _ =>
    simp only [bind, Except.bind, pure, Except.pure] at h ⊢
    split at h
    · exact absurd h (by simp)
    next there walked =>
    rw [walk_put no_folder walked]
    dsimp only
    split at h
    · next dots =>
      rw [if_pos dots]
      split at h
      · exact absurd h (by simp)
      next next entered =>
      rw [enter_put no_folder entered]
      exact h
    · next dots =>
      rw [if_neg dots]
      exact h

/-! ## Files -/

/-- A file that was written is read with the text that was written. -/
theorem read_write {d' : Directory} (h : d.write path text = .ok d') : d'.read path = .ok text := by
  unfold write at h
  split at h
  · exact absurd h (by simp)
  · exact absurd h (by simp)
  next folder last slash located =>
  split at h
  · exact absurd h (by simp)
  next no_slash =>
  split at h
  · exact absurd h (by simp)
  · exact absurd h (by simp)
  next found no_folder looked_up =>
    obtain rfl : d.put (folder ++ [last]) (.file text) = d' := by simpa using h
    unfold lookUp at looked_up
    split at looked_up
    · exact absurd looked_up (by simp)
    next short =>
    have entry : d.entry? (folder ++ [last]) = found := by simpa using looked_up
    have nonempty : folder ++ [last] ≠ [] := List.append_ne_nil_of_right_ne_nil _ (List.cons_ne_nil last [])
    unfold read
    rw [locate_put (entry ▸ no_folder) located]
    dsimp only
    unfold lookUp
    rw [if_neg short, entry?_put nonempty]
    dsimp only
    rw [if_neg no_slash]

/-- A file that was saved is read with the text that was saved. -/
theorem read_save {d' : Directory} (h : d.save path text = (.ok (), d')) : d'.read path = .ok text := by
  unfold save at h
  split at h
  · exact absurd (Prod.mk.inj h).1 (by simp)
  next way _ =>
  split at h
  · next written =>
    obtain rfl := (Prod.mk.inj h).2
    exact read_write written
  · exact absurd (Prod.mk.inj h).1 (by simp)

end Directory

end DebugConsole
