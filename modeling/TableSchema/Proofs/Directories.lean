import TableSchema.Proofs.DiskChanges

/-!
# Making directories

Making a directory makes what is missing along its path.  Main statements: it does nothing but add directories,
whether or not it succeeds (`run_makeDirectory_grows`), and it succeeds exactly if the operating system takes the path
and no file stands along it (`exists_run_makeDirectory_iff`).
-/

namespace TableSchema.Files

namespace Disk

/-! ### More directories -/

/-- A disk has the same files as another one. -/
def SameFiles (d after : Disk) : Prop :=
  ∀ place bytes, after.get? place = some (.file bytes) ↔ d.get? place = some (.file bytes)

/-- Directories have been added to a disk, and nothing else has changed. -/
structure Grows (d after : Disk) : Prop where
  limits : after.limits = d.limits
  workingDirectory : after.workingDirectory = d.workingDirectory
  files : d.SameFiles after
  directories : ∀ place, d.get? place = some .directory → after.get? place = some .directory

variable {d middle after : Disk} {p : Path}

theorem Grows.refl (d : Disk) : d.Grows d :=
  ⟨rfl, rfl, fun _ _ => Iff.rfl, fun _ h => h⟩

theorem Grows.trans (h : d.Grows middle) (h' : middle.Grows after) : d.Grows after :=
  ⟨h'.limits.trans h.limits, h'.workingDirectory.trans h.workingDirectory,
    fun place bytes => (h'.files place bytes).trans (h.files place bytes),
    fun place hplace => h'.directories place (h.directories place hplace)⟩

theorem Grows.start (h : d.Grows after) (p : Path) : after.start p = d.start p := by
  rw [Disk.start, h.workingDirectory, Disk.start]

theorem Grows.target (h : d.Grows after) (p : Path) : after.target p = d.target p := by
  rw [Disk.target, h.start, Disk.target]

theorem Grows.takes_iff (h : d.Grows after) : after.Takes p ↔ d.Takes p :=
  takes_congr h.limits

theorem Grows.clear_iff (h : d.Grows after) : after.Clear p ↔ d.Clear p := by
  simp only [Clear, h.start, ne_eq, h.files _ _]

theorem Grows.leads (h : d.Grows after) (hleads : d.Leads p) : after.Leads p := by
  intro above habove hne
  rw [h.start]
  exact h.directories _ (hleads above habove hne)

theorem Grows.locate {place : Place} (h : d.Grows after) (hlocate : d.locate p = .ok place) :
    after.locate p = .ok place := by
  obtain ⟨htakes, hleads, rfl⟩ := locate_eq_ok_iff.1 hlocate
  exact locate_eq_ok_iff.2 ⟨h.takes_iff.2 htakes, h.leads hleads, h.target p⟩

theorem ne_nil_of_get?_eq_none {place : Place} (hplace : d.get? place = none) : place ≠ [] := by
  rintro rfl
  cases hplace

theorem grows_put_directory {place : Place} (hplace : d.get? place = none) : d.Grows (d.put place .directory) := by
  refine ⟨rfl, rfl, fun other bytes => ?_, fun other hother => ?_⟩
  · rw [get?_put]
    split
    · rename_i h
      rw [h.1, hplace]
      simp
    · rfl
  · rw [get?_put]
    split
    · rfl
    · exact hother

/-- The directories along a path are there, and nothing else has changed. -/
structure HasMade (d : Disk) (p : Path) (made : Disk) : Prop extends d.Grows made where
  reaches : made.Enters p
  kept : ∀ other, (∀ above, above <+: p.parts → other ≠ walk (d.start p) above) → made.get? other = d.get? other

/-- Once the directories above a place are made, everything on the way to it is a directory. -/
theorem HasMade.leads {made : Disk} (h : d.HasMade p.parent made) : made.Leads p := by
  intro above habove hne
  exact h.reaches above (prefix_dropLast habove hne)

/-- Directories can be made above a place first and then at it. -/
theorem HasMade.trans {made : Disk} (h : d.HasMade p.parent middle) (h' : middle.HasMade p made) :
    d.HasMade p made := by
  have hstart : middle.start p = d.start p := h.start p
  refine ⟨h.toGrows.trans h'.toGrows, h'.reaches, fun other hother => ?_⟩
  rw [h'.kept other (by rwa [hstart])]
  exact h.kept other fun above habove => hother above (habove.trans (List.dropLast_prefix p.parts))

end Disk

namespace Change

variable {d : Disk} {p : Path}

/-! ### What making a directory does -/

/-- A directory is made where nothing stands, and stays where it is there already. -/
theorem run_makeIfMissing (p : Path) (d : Disk) : (makeIfMissing p).run.run d = match d.locate p with
    | .error fault => (.error ⟨fault, p⟩, d)
    | .ok place => match d.get? place with
      | none => (.ok (), d.put place .directory)
      | some .directory => (.ok (), d)
      | some (.file _) => (.error ⟨.alreadyExists, p⟩, d) := by
  unfold makeIfMissing
  rw [run_tryCatch, run_makeNew]
  cases hlocate : d.locate p with
  | error fault =>
    have his : d.isDirectory p = false := by simp [Disk.isDirectory, Disk.look, hlocate]
    dsimp only
    split
    · rfl
    · rw [run_get_bind, his]
      rfl
  | ok place =>
    dsimp only
    cases hplace : d.get? place with
    | none => rfl
    | some entry =>
      dsimp only
      rw [if_neg (by simp), run_get_bind]
      cases entry with
      | file bytes =>
        have his : d.isDirectory p = false := by simp [Disk.isDirectory, Disk.look, hlocate, hplace]
        rw [his]
        rfl
      | directory =>
        have his : d.isDirectory p = true := by simp [Disk.isDirectory, Disk.look, hlocate, hplace]
        rw [his]
        rfl

theorem run_makeAll_succ (p : Path) (depth : Nat) (d : Disk) : (makeAll p (depth + 1)).run.run d =
    match (makeIfMissing p).run.run d with
    | (.ok (), after) => (.ok (), after)
    | (.error e, after) =>
      if e.fault ≠ .notFound then (.error e, after)
      else match (makeAll p.parent depth).run.run after with
        | (.ok (), middle) => (makeIfMissing p).run.run middle
        | (.error e, middle) => (.error e, middle) := by
  rw [makeAll, run_tryCatch]
  rcases (makeIfMissing p).run.run d with ⟨e | _, after⟩
  · dsimp only
    split
    · rfl
    · rw [run_bind]
      rcases (makeAll p.parent depth).run.run after with ⟨_ | _, _⟩ <;> rfl
  · rfl

theorem run_makeIfMissing_grows (p : Path) (d : Disk) : d.Grows ((makeIfMissing p).run.run d).2 := by
  rw [run_makeIfMissing]
  split
  · exact .refl d
  · split
    · exact Disk.grows_put_directory ‹_›
    · exact .refl d
    · exact .refl d

theorem run_makeAll_grows (p : Path) (depth : Nat) (d : Disk) : d.Grows ((makeAll p depth).run.run d).2 := by
  induction depth generalizing p d with
  | zero => exact run_makeIfMissing_grows p d
  | succ depth ih =>
    have hfirst := run_makeIfMissing_grows p d
    rw [run_makeAll_succ]
    split
    · rename_i after h
      rwa [h] at hfirst
    · rename_i e after h
      rw [h] at hfirst
      have hup := hfirst.trans (ih p.parent after)
      split
      · exact hfirst
      · split
        · rename_i middle hmiddle
          rw [hmiddle] at hup
          exact hup.trans (run_makeIfMissing_grows p middle)
        · rename_i e' middle hmiddle
          rwa [hmiddle] at hup

/-- Making a directory, whether or not it succeeds, does nothing but add directories. -/
theorem run_makeDirectory_grows (p : Path) (d : Disk) : d.Grows ((makeDirectory p).run.run d).2 :=
  run_makeAll_grows p p.parts.length d

theorem enters_of_run_makeIfMissing {made : Disk} (h : (makeIfMissing p).run.run d = (.ok (), made)) :
    made.Takes p ∧ made.Enters p := by
  have henters : ∀ {place : Place}, made.locate p = .ok place → made.get? place = some .directory →
      made.Takes p ∧ made.Enters p := by
    intro place hlocate hplace
    obtain ⟨htakes, hleads, rfl⟩ := Disk.locate_eq_ok_iff.1 hlocate
    exact ⟨htakes, hleads.enters hplace⟩
  rw [run_makeIfMissing] at h
  split at h
  · cases h
  · rename_i place hlocate
    split at h
    · rename_i hplace
      cases h
      refine henters ((Disk.grows_put_directory hplace).locate hlocate) ?_
      rw [Disk.get?_put, if_pos ⟨rfl, Disk.ne_nil_of_get?_eq_none hplace⟩]
    · cases h
      exact henters hlocate ‹_›
    · cases h

/-- A directory that has been made is there. -/
theorem enters_of_run_makeAll {made : Disk} {depth : Nat} (h : (makeAll p depth).run.run d = (.ok (), made)) :
    made.Takes p ∧ made.Enters p := by
  cases depth with
  | zero => exact enters_of_run_makeIfMissing h
  | succ depth =>
    rw [run_makeAll_succ] at h
    split at h
    · rename_i after hrun
      cases h
      exact enters_of_run_makeIfMissing hrun
    · split at h
      · cases h
      · split at h
        · exact enters_of_run_makeIfMissing h
        · cases h

/-! ### When a directory can be made -/

theorem exists_run_makeIfMissing (htakes : d.Takes p) (hleads : d.Leads p) (hclear : d.Clear p) :
    ∃ made, (makeIfMissing p).run.run d = (.ok (), made) ∧ d.HasMade p made := by
  have hlocate := Disk.locate_eq_ok_iff.2 ⟨htakes, hleads, rfl⟩
  rw [run_makeIfMissing, hlocate]
  dsimp only
  cases hplace : d.get? (d.target p) with
  | none =>
    have hgrows := Disk.grows_put_directory hplace
    refine ⟨_, rfl, hgrows, (hgrows.leads hleads).enters ?_, fun other hother => ?_⟩
    · rw [hgrows.target, Disk.get?_put, if_pos ⟨rfl, Disk.ne_nil_of_get?_eq_none hplace⟩]
    · rw [Disk.get?_put, if_neg fun h => hother p.parts List.prefix_rfl h.1]
  | some entry =>
    cases entry with
    | file bytes => exact absurd hplace (hclear p.parts List.prefix_rfl bytes)
    | directory => exact ⟨d, rfl, .refl d, hleads.enters hplace, fun _ _ => rfl⟩

/-- A directory can be made if the operating system takes its path and those above it, and no file stands along it. -/
theorem exists_run_makeAll (htakes : ∀ above, above <+: p.parts → d.Takes { p with parts := above })
    (hclear : d.Clear p) {depth : Nat} (hdepth : p.parts.length = depth) :
    ∃ made, (makeAll p depth).run.run d = (.ok (), made) ∧ d.HasMade p made := by
  have htakes' : d.Takes p := htakes p.parts List.prefix_rfl
  induction depth generalizing p with
  | zero =>
    have hnil : p.parts = [] := List.length_eq_zero_iff.1 hdepth
    refine exists_run_makeIfMissing htakes' (fun above habove hne => ?_) hclear
    rw [hnil] at habove hne
    exact absurd (List.prefix_nil.1 habove) hne
  | succ depth ih =>
    rw [run_makeAll_succ]
    by_cases hleads : d.Leads p
    · obtain ⟨made, hrun, hmade⟩ := exists_run_makeIfMissing htakes' hleads hclear
      rw [hrun]
      exact ⟨made, rfl, hmade⟩
    · -- The directories above come first; then everything on the way to the place is there.
      have hup : p.parent.parts <+: p.parts := List.dropLast_prefix p.parts
      obtain ⟨middle, hrun, hmiddle⟩ := ih (p := p.parent) (fun above habove => htakes above (habove.trans hup))
        (fun above habove => hclear above (habove.trans hup))
        (by rw [Path.parent, List.length_dropLast, hdepth, Nat.add_sub_cancel]) (htakes _ hup)
      obtain ⟨made, hrun', hmade⟩ := exists_run_makeIfMissing (hmiddle.takes_iff.2 htakes') hmiddle.leads
        (hmiddle.clear_iff.2 hclear)
      rw [run_makeIfMissing, Disk.locate_eq_notFound htakes' hclear hleads]
      dsimp only
      rw [if_neg (by simp), hrun]
      exact ⟨made, hrun', hmiddle.trans hmade⟩

/-- A directory can be made exactly if the operating system takes its path and no file stands along it. -/
theorem exists_run_makeDirectory_iff (hparts : "" ∉ p.parts) :
    (∃ made, (makeDirectory p).run.run d = (.ok (), made)) ↔ d.Takes p ∧ d.Clear p := by
  constructor
  · rintro ⟨made, hrun⟩
    have hgrows := run_makeDirectory_grows p d
    rw [hrun] at hgrows
    obtain ⟨htakes, henters⟩ := enters_of_run_makeAll hrun
    exact ⟨hgrows.takes_iff.1 htakes, hgrows.clear_iff.1 henters.clear⟩
  · rintro ⟨htakes, hclear⟩
    obtain ⟨made, hrun, -⟩ := exists_run_makeAll (fun _ => htakes.of_prefix hparts) hclear rfl
    exact ⟨made, hrun⟩

end Change

/-! ### Paths that go down -/

/-- A path that goes down only and that an operating system takes. -/
structure Path.Descends (p : Path) : Prop where
  no_parent : ".." ∉ p.parts
  no_null : ∀ part ∈ p.parts, '\x00' ∉ part.toList

theorem Path.descends_iff {p : Path} : p.Descends ↔ ".." ∉ p.parts ∧ ∀ part ∈ p.parts, '\x00' ∉ part.toList :=
  ⟨fun h => ⟨h.no_parent, h.no_null⟩, fun h => ⟨h.1, h.2⟩⟩

instance (p : Path) : Decidable p.Descends :=
  decidable_of_iff _ Path.descends_iff.symm

variable {d : Disk} {p : Path}

theorem Path.Descends.walk_eq (hp : p.Descends) {above : List String} (habove : above <+: p.parts) (place : Place) :
    walk place above = place ++ above :=
  walk_eq_append (fun h => hp.no_parent (habove.subset h)) place

theorem Path.Descends.takes (hp : p.Descends) (hlimits : d.limits = .unbounded) : d.Takes p :=
  .of_unbounded hlimits hp.no_null

namespace Disk

/-- The place to which a path leads that goes down only. -/
def placeOf (d : Disk) (p : Path) : Place :=
  d.start p ++ p.parts

/-- No file stands along a path that goes down only. -/
def Unblocked (d : Disk) (p : Path) : Prop :=
  ∀ above, above <+: p.parts → ∀ bytes, d.get? (d.start p ++ above) ≠ some (.file bytes)

theorem target_eq_placeOf (hp : p.Descends) : d.target p = d.placeOf p :=
  hp.walk_eq List.prefix_rfl (d.start p)

theorem Unblocked.clear (h : d.Unblocked p) (hp : p.Descends) : d.Clear p := by
  intro above habove
  rw [hp.walk_eq habove]
  exact h above habove

@[simp] theorem placeOf_writeFiles (place : Place) (files : List (String × List UInt8)) (p : Path) :
    (d.writeFiles place files).placeOf p = d.placeOf p := by
  rw [placeOf, start_writeFiles, placeOf]

theorem HasMade.placeOf {made : Disk} (h : d.HasMade p made) : made.placeOf p = d.placeOf p := by
  rw [Disk.placeOf, h.start, Disk.placeOf]

/-- What stands in a directory is not along the path to the directory. -/
theorem placeOf_append_ne (hp : p.Descends) {above : List String} (name : String) (habove : above <+: p.parts) :
    d.placeOf p ++ [name] ≠ walk (d.start p) above := by
  intro h
  rw [hp.walk_eq habove, placeOf, List.append_assoc] at h
  have hle := habove.length_le
  rw [← List.append_cancel_left h, List.length_append, List.length_singleton] at hle
  omega

end Disk

/-- Making a directory makes what is missing along its path. -/
theorem Change.exists_run_makeDirectory (hlimits : d.limits = .unbounded) (hp : p.Descends) (hfree : d.Unblocked p) :
    ∃ made, (makeDirectory p).run.run d = (.ok (), made) ∧ d.HasMade p made :=
  exists_run_makeAll (fun _ habove => .of_unbounded hlimits fun part hpart => hp.no_null part (habove.subset hpart))
    (hfree.clear hp) rfl

/-- No directory is made for a path that is refused. -/
theorem Change.run_makeDirectory_of_nullCharacter (hlocate : d.locate p = .error .nullCharacter) :
    (makeDirectory p).run.run d = (.error ⟨.nullCharacter, p⟩, d) := by
  unfold makeDirectory
  cases p.parts.length with
  | zero => rw [makeAll, run_makeIfMissing, hlocate]
  | succ depth =>
    rw [run_makeAll_succ, run_makeIfMissing, hlocate]
    rfl

end TableSchema.Files
