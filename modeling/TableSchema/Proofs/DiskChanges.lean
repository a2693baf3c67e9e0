import Mathlib.Data.List.Infix
import TableSchema.Files.Disk
import TableSchema.Proofs.PathPlaces

/-!
# What changes do to a disk

Main statement: files are written into a directory one after the other, up to the first one that the directory does not
admit, and nothing else changes (`run_mapM_writeFile`).
-/

namespace TableSchema.Files

section Runs

/-! ### Runs of steps that change a state and may fail -/

variable {σ ε α β : Type}

theorem run_bind (x : ExceptT ε (StateM σ) α) (f : α → ExceptT ε (StateM σ) β) (s : σ) :
    (x >>= f).run.run s = match x.run.run s with
      | (.ok a, s) => (f a).run.run s
      | (.error e, s) => (.error e, s) := by
  have hrun : (x >>= f).run.run s = (ExceptT.bindCont f (x.run.run s).1).run (x.run.run s).2 := rfl
  rw [hrun]
  rcases x.run.run s with ⟨_ | _, _⟩ <;> rfl

theorem run_tryCatch (x : ExceptT ε (StateM σ) α) (handle : ε → ExceptT ε (StateM σ) α) (s : σ) :
    (tryCatch x handle).run.run s = match x.run.run s with
      | (.ok a, s) => (.ok a, s)
      | (.error e, s) => (handle e).run.run s := by
  have hrun : (tryCatch x handle).run.run s =
      (ExceptT.tryCatch (ExceptT.mk (pure (x.run.run s).1)) handle).run.run (x.run.run s).2 := rfl
  rw [hrun]
  rcases x.run.run s with ⟨_ | _, _⟩ <;> rfl

theorem run_get_bind (f : σ → ExceptT ε (StateM σ) α) (s : σ) : (getThe σ >>= f).run.run s = (f s).run.run s := rfl

end Runs

namespace Disk

variable {d : Disk} {p : Path}

/-! ### Putting files into a directory -/

/-- Files put one after the other into the directory at a place. -/
def writeFiles (d : Disk) (place : Place) (files : List (String × List UInt8)) : Disk :=
  files.foldl (fun d file => d.put (place ++ [file.1]) (.file file.2)) d

@[simp] theorem start_put (place : Place) (entry : Entry) (p : Path) : (d.put place entry).start p = d.start p := rfl

/-- Files that are written change nothing at another place. -/
theorem get?_writeFiles_of_ne {place other : Place} {files : List (String × List UInt8)}
    (hother : ∀ file ∈ files, other ≠ place ++ [file.1]) : (d.writeFiles place files).get? other = d.get? other := by
  induction files generalizing d with
  | nil => rfl
  | cons file files ih =>
    rw [List.forall_mem_cons] at hother
    rw [writeFiles, List.foldl_cons, ← writeFiles, ih hother.2, get?_put, if_neg fun h => hother.1 h.1]

/-- A file that is written stands there afterwards, if no later one has its name. -/
theorem get?_writeFiles_of_mem {place : Place} {files : List (String × List UInt8)} {name : String}
    {bytes : List UInt8} (hnames : (files.map (·.1)).Nodup) (hfile : (name, bytes) ∈ files) :
    (d.writeFiles place files).get? (place ++ [name]) = some (.file bytes) := by
  induction files generalizing d with
  | nil => cases hfile
  | cons file files ih =>
    rw [List.map_cons, List.nodup_cons] at hnames
    rw [writeFiles, List.foldl_cons, ← writeFiles]
    rcases List.mem_cons.1 hfile with rfl | hfile
    · have hlater : ∀ file ∈ files, place ++ [name] ≠ place ++ [file.1] := by
        intro file hmem heq
        have hname : name = file.1 := by simpa using heq
        exact hnames.1 (List.mem_map.2 ⟨file, hmem, hname.symm⟩)
      rw [get?_writeFiles_of_ne hlater, get?_put, if_pos ⟨rfl, by simp⟩]
    · exact ih hnames.2 hfile

/-- Nothing stands at a place that has no entry. -/
theorem get?_eq_none_iff {place : Place} (hplace : place ≠ []) :
    d.get? place = none ↔ ∀ entry, (place, entry) ∉ d.entries := by
  rw [get?, if_neg hplace, Dictionary.find?, Option.map_eq_none_iff, List.find?_eq_none]
  simp only [decide_eq_true_eq]
  exact ⟨fun h entry hentry => h (place, entry) hentry rfl, fun h e hentry heq => h e.2 (heq ▸ hentry)⟩

theorem mem_entries_of_get? {place : Place} {entry : Entry} (hplace : place ≠ []) (h : d.get? place = some entry) :
    (place, entry) ∈ d.entries := by
  rw [get?, if_neg hplace, Dictionary.find?, Option.map_eq_some_iff] at h
  obtain ⟨⟨other, e⟩, hfind, rfl⟩ := h
  have hother : other = place := by simpa using List.find?_some hfind
  exact hother ▸ List.mem_of_find?_eq_some hfind

@[simp] theorem limits_writeFiles (place : Place) (files : List (String × List UInt8)) :
    (d.writeFiles place files).limits = d.limits := by
  induction files generalizing d with
  | nil => rfl
  | cons file files ih => exact ih

@[simp] theorem start_writeFiles (place : Place) (files : List (String × List UInt8)) (p : Path) :
    (d.writeFiles place files).start p = d.start p := by
  induction files generalizing d with
  | nil => rfl
  | cons file files ih => exact ih

@[simp] theorem target_writeFiles (place : Place) (files : List (String × List UInt8)) (p : Path) :
    (d.writeFiles place files).target p = d.target p := by
  rw [target, start_writeFiles, target]

/-- A new entry comes last. -/
theorem entries_put_of_get?_eq_none {place : Place} {entry : Entry} (hplace : place ≠ [])
    (hnone : d.get? place = none) : (d.put place entry).entries = d.entries ++ [(place, entry)] := by
  refine Dictionary.assign_of_not_mem (fun hkey => ?_) entry
  obtain ⟨⟨other, e⟩, he, rfl⟩ := List.mem_map.1 hkey
  exact (get?_eq_none_iff hplace).1 hnone e he

/-- Files under new names come behind the other entries. -/
theorem entries_writeFiles {place : Place} {files : List (String × List UInt8)}
    (hnames : (files.map (·.1)).Nodup) (hnew : ∀ file ∈ files, d.get? (place ++ [file.1]) = none) :
    (d.writeFiles place files).entries = d.entries ++ files.map fun file => (place ++ [file.1], .file file.2) := by
  induction files generalizing d with
  | nil => simp [writeFiles]
  | cons file files ih =>
    rw [List.map_cons, List.nodup_cons] at hnames
    rw [List.forall_mem_cons] at hnew
    have hlater : ∀ later ∈ files, (d.put (place ++ [file.1]) (.file file.2)).get? (place ++ [later.1]) = none := by
      intro later hmem
      rw [get?_put, if_neg, hnew.2 later hmem]
      intro h
      have hname : later.1 = file.1 := by simpa using h.1
      exact hnames.1 (List.mem_map.2 ⟨later, hmem, hname⟩)
    rw [writeFiles, List.foldl_cons, ← writeFiles, ih hnames.2 hlater, entries_put_of_get?_eq_none (by simp) hnew.1,
      List.map_cons, List.append_assoc]
    rfl

/-! ### What a directory lists -/

/-- The children of a directory are the entries one part below it. -/
theorem mem_children_iff {place : Place} {name : String} {entry : Entry} :
    (name, entry) ∈ d.children place ↔ (place ++ [name], entry) ∈ d.entries := by
  simp only [children, below, List.mem_filterMap]
  constructor
  · rintro ⟨⟨parts, e⟩, ⟨⟨other, e'⟩, hmem, hbelow⟩, hname⟩
    simp only [Option.ite_none_right_eq_some, Bool.and_eq_true, List.isPrefixOf_iff_prefix] at hbelow
    obtain ⟨⟨⟨rest, rfl⟩, -⟩, hbelow⟩ := hbelow
    rw [List.drop_left] at hbelow
    cases hbelow
    split at hname
    · rename_i hparts
      cases hname
      cases hparts
      exact hmem
    · cases hname
  · intro hmem
    refine ⟨([name], entry), ⟨(place ++ [name], entry), hmem, ?_⟩, rfl⟩
    simp

/-- A directory lists no name twice. -/
theorem nodup_children (hentries : (d.entries.map (·.1)).Nodup) (place : Place) :
    ((d.children place).map (·.1)).Nodup := by
  rw [List.Nodup, List.pairwise_map] at hentries ⊢
  -- Different places below a place are reached by different parts, and different single parts are different names.
  have hbelow : (d.below place).Pairwise fun a b => a.1 ≠ b.1 := by
    refine hentries.filterMap _ fun a a' hne b hb b' hb' => ?_
    simp only [Option.ite_none_right_eq_some, Bool.and_eq_true, List.isPrefixOf_iff_prefix, Option.some.injEq] at hb hb'
    obtain ⟨⟨⟨rest, hrest⟩, -⟩, rfl⟩ := hb
    obtain ⟨⟨⟨rest', hrest'⟩, -⟩, rfl⟩ := hb'
    rw [← hrest, ← hrest'] at hne
    rw [← hrest, ← hrest', List.drop_left, List.drop_left]
    exact fun heq => hne (congrArg (place ++ ·) heq)
  refine hbelow.filterMap _ ?_
  rintro ⟨parts, entry⟩ ⟨parts', entry'⟩ hne b hb b' hb'
  match parts, parts' with
  | [name], [name'] =>
    cases hb
    cases hb'
    exact fun heq => hne (congrArg (fun name => [name]) heq)
  | [], _ => cases hb
  | _ :: _ :: _, _ => cases hb
  | [_], [] => cases hb'
  | [_], _ :: _ :: _ => cases hb'

/-- A directory has no children if nothing stands at the places right below it. -/
theorem children_eq_nil_iff {place : Place} :
    d.children place = [] ↔ ∀ name, d.get? (place ++ [name]) = none := by
  rw [List.eq_nil_iff_forall_not_mem]
  constructor
  · intro hempty name
    rw [get?_eq_none_iff (by simp)]
    exact fun entry hentry => hempty (name, entry) (mem_children_iff.2 hentry)
  · rintro hnone ⟨name, entry⟩ hchild
    exact (get?_eq_none_iff (by simp)).1 (hnone name) entry (mem_children_iff.1 hchild)

theorem children_writeFiles {place : Place} {files : List (String × List UInt8)}
    (hempty : d.children place = []) (hnames : (files.map (·.1)).Nodup) :
    (d.writeFiles place files).children place = files.map fun file => (file.1, .file file.2) := by
  have hnew : ∀ file ∈ files, d.get? (place ++ [file.1]) = none := fun file _ => children_eq_nil_iff.1 hempty file.1
  rw [children, below, entries_writeFiles hnames hnew, List.filterMap_append, List.filterMap_append, ← below,
    ← children, hempty, List.nil_append, List.filterMap_map, List.filterMap_filterMap]
  simp

end Disk

namespace Change

variable {d : Disk} {p : Path}

/-! ### Runs of single operations -/

theorem run_writeFile (bytes : List UInt8) {place : Place} (hlocate : d.locate p = .ok place) :
    (writeFile p bytes).run.run d =
      if d.get? place = some .directory then (.error ⟨.isDirectory, p⟩, d)
      else (.ok (), d.put place (.file bytes)) := by
  unfold writeFile
  rw [run_get_bind, hlocate]
  dsimp only
  split
  · rename_i h
    rw [if_pos h]
    rfl
  · rename_i h
    rw [if_neg h]
    rfl

/-- A file is written at the place of its path, or nothing changes. -/
theorem run_writeFile_cases (p : Path) (bytes : List UInt8) (d : Disk) :
    (∃ e, (writeFile p bytes).run.run d = (.error e, d)) ∨
      ∃ place, d.locate p = .ok place ∧ place ≠ [] ∧
        (writeFile p bytes).run.run d = (.ok (), d.put place (.file bytes)) := by
  cases hlocate : d.locate p with
  | error fault =>
    refine .inl ⟨⟨fault, p⟩, ?_⟩
    unfold writeFile
    rw [run_get_bind, hlocate]
    rfl
  | ok place =>
    rw [run_writeFile bytes hlocate]
    by_cases hplace : d.get? place = some .directory
    · exact .inl ⟨_, if_pos hplace⟩
    · exact .inr ⟨place, rfl, fun hroot => hplace (by rw [hroot]; rfl), if_neg hplace⟩

theorem run_makeNew : (makeNew p).run.run d = match d.locate p with
    | .error fault => (.error ⟨fault, p⟩, d)
    | .ok place => match d.get? place with
      | some _ => (.error ⟨.alreadyExists, p⟩, d)
      | none => (.ok (), d.put place .directory) := by
  unfold makeNew
  rw [run_get_bind]
  cases d.locate p with
  | error fault => rfl
  | ok place =>
    dsimp only
    cases d.get? place <;> rfl

end Change

/-! ### Writing files into a directory -/

namespace Disk

variable {d : Disk} {p : Path} {name : String}

/-- A file can be written under a name into the directory to which a path leads. -/
structure Admits (d : Disk) (p : Path) (name : String) : Prop where
  takes : d.Takes (p.child name)
  free : d.get? (d.target p ++ [name]) ≠ some .directory

theorem Enters.locate_child (h : d.Enters p) (hname : name ≠ "..") (htakes : d.Takes (p.child name)) :
    d.locate (p.child name) = .ok (d.target p ++ [name]) :=
  locate_eq_ok_iff.2 ⟨htakes, h.leads_child, target_child hname⟩

variable {place : Place} {bytes : List UInt8}

theorem takes_put {entry : Entry} : (d.put place entry).Takes p ↔ d.Takes p :=
  takes_congr rfl

theorem takes_writeFiles {files : List (String × List UInt8)} : (d.writeFiles place files).Takes p ↔ d.Takes p :=
  takes_congr (limits_writeFiles place files)

/-- Where no directory stands, writing a file leaves all directories as they are. -/
theorem get?_put_file_eq_directory_iff (hplace : d.get? place ≠ some .directory) (bytes : List UInt8) (other : Place) :
    (d.put place (.file bytes)).get? other = some .directory ↔ d.get? other = some .directory := by
  rw [get?_put]
  split
  · rename_i h
    rw [h.1]
    exact ⟨fun h => absurd h (by simp), fun h => absurd h hplace⟩
  · rfl

theorem Enters.put_file (h : d.Enters p) (hplace : d.get? place ≠ some .directory) :
    (d.put place (.file bytes)).Enters p := by
  intro above habove
  rw [start_put, get?_put_file_eq_directory_iff hplace]
  exact h above habove

theorem get?_writeFiles_eq_directory_iff {files : List (String × List UInt8)}
    (hfree : ∀ file ∈ files, d.get? (place ++ [file.1]) ≠ some .directory) (other : Place) :
    (d.writeFiles place files).get? other = some .directory ↔ d.get? other = some .directory := by
  induction files generalizing d with
  | nil => rfl
  | cons file files ih =>
    rw [List.forall_mem_cons] at hfree
    rw [writeFiles, List.foldl_cons, ← writeFiles, ih, get?_put_file_eq_directory_iff hfree.1]
    intro later hlater
    rw [ne_eq, get?_put_file_eq_directory_iff hfree.1]
    exact hfree.2 later hlater

theorem Enters.writeFiles (h : d.Enters p) {files : List (String × List UInt8)}
    (hfree : ∀ file ∈ files, d.get? (place ++ [file.1]) ≠ some .directory) : (d.writeFiles place files).Enters p := by
  intro above habove
  rw [start_writeFiles, get?_writeFiles_eq_directory_iff hfree]
  exact h above habove

theorem admits_put_file (hplace : d.get? place ≠ some .directory) :
    (d.put place (.file bytes)).Admits p name ↔ d.Admits p name := by
  have hfree := get?_put_file_eq_directory_iff hplace bytes (d.target p ++ [name])
  exact ⟨fun h => ⟨takes_put.1 h.takes, mt hfree.2 h.free⟩, fun h => ⟨takes_put.2 h.takes, mt hfree.1 h.free⟩⟩

end Disk

namespace Change

variable {d : Disk} {p : Path}

/-- Writing a file into a directory that admits it puts it there. -/
theorem run_writeFile_of_admits {name : String} (bytes : List UInt8) (hname : name ≠ "..") (henters : d.Enters p)
    (hadmits : d.Admits p name) :
    (writeFile (p.child name) bytes).run.run d = (.ok (), d.put (d.target p ++ [name]) (.file bytes)) := by
  rw [run_writeFile bytes (henters.locate_child hname hadmits.takes), if_neg hadmits.free]

/-- Writing a file into a directory that does not admit it fails. -/
theorem run_writeFile_of_not_admits {name : String} (bytes : List UInt8) (hname : name ≠ "..") (henters : d.Enters p)
    (hadmits : ¬d.Admits p name) : ∃ fault, (d.Takes (p.child name) → fault = .isDirectory) ∧
      (writeFile (p.child name) bytes).run.run d = (.error ⟨fault, p.child name⟩, d) := by
  by_cases htakes : d.Takes (p.child name)
  · have hplace : d.get? (d.target p ++ [name]) = some .directory := by
      by_contra hfree
      exact hadmits ⟨htakes, hfree⟩
    refine ⟨.isDirectory, fun _ => rfl, ?_⟩
    rw [run_writeFile bytes (henters.locate_child hname htakes), if_pos hplace]
  · cases hlocate : d.locate (p.child name) with
    | ok place => exact absurd (Disk.locate_eq_ok_iff.1 hlocate).1 htakes
    | error fault =>
      refine ⟨fault, fun h => absurd h htakes, ?_⟩
      unfold writeFile
      rw [run_get_bind, hlocate]
      rfl

/-- Files are written into a directory one after the other, up to the first one that it does not admit. -/
theorem run_mapM_writeFile {α : Type} (name : α → String) (bytes : α → List UInt8) {files : List α}
    (hnames : ∀ file ∈ files, name file ≠ "..") (henters : d.Enters p) :
    ∃ written result, (files.mapM fun file => do
        writeFile (p.child (name file)) (bytes file)
        return p.child (name file) : Change FileError (List Path)).run.run d =
        (result, d.writeFiles (d.target p) (written.map fun file => (name file, bytes file))) ∧
      (∀ file ∈ written, d.Admits p (name file)) ∧
      (written = files ∧ result = .ok (files.map fun file => p.child (name file)) ∨
        ∃ file fault, written ++ [file] <+: files ∧ ¬d.Admits p (name file) ∧
          (d.Takes (p.child (name file)) → fault = .isDirectory) ∧
          result = .error ⟨fault, p.child (name file)⟩) := by
  -- Writing a file that is admitted keeps the directory that is entered and what else it admits.
  induction files generalizing d with
  | nil => exact ⟨[], _, rfl, by simp, .inl ⟨rfl, rfl⟩⟩
  | cons file files ih =>
    rw [List.forall_mem_cons] at hnames
    rw [List.mapM_cons, run_bind, run_bind]
    by_cases hadmits : d.Admits p (name file)
    · rw [run_writeFile_of_admits (bytes file) hnames.1 henters hadmits]
      obtain ⟨written, result, hrun, hwritten, hends⟩ :=
        ih (d := d.put (d.target p ++ [name file]) (.file (bytes file))) hnames.2 (henters.put_file hadmits.free)
      simp only [Disk.admits_put_file hadmits.free, Disk.takes_put] at hwritten hends
      refine ⟨file :: written, (p.child (name file) :: ·) <$> result, ?_,
        List.forall_mem_cons.2 ⟨hadmits, hwritten⟩, ?_⟩
      · change ((files.mapM _ : Change FileError (List Path)) >>= fun paths => pure (_ :: paths) :
          Change FileError (List Path)).run.run _ = _
        rw [run_bind, hrun]
        cases result <;> rfl
      · rcases hends with ⟨rfl, rfl⟩ | ⟨later, fault, hbegins, hlater, hfault, rfl⟩
        · exact .inl ⟨rfl, rfl⟩
        · exact .inr ⟨later, fault, List.cons_prefix_cons.2 ⟨rfl, hbegins⟩, hlater, hfault, rfl⟩
    · obtain ⟨fault, hfault, hrun⟩ := run_writeFile_of_not_admits (bytes file) hnames.1 henters hadmits
      rw [hrun]
      exact ⟨[], _, rfl, by simp, .inr ⟨file, fault, by simp, hadmits, hfault, rfl⟩⟩

end Change

end TableSchema.Files
