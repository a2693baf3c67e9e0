import TableSchema.Proofs.SplitFiles

/-!
# What writing split files does to a disk

Main statement: if the directory cannot be made, no file changes; otherwise the tables are written one after the other,
up to the first one at whose place a directory stands or whose file the operating system does not take, and no other
file changes (`writeSplit_effect`).  Names and paths that are too long and null characters cannot be left out of account
(`not_splitEffect`).
-/

namespace TableSchema.Files

open Text

variable {d made : Disk} {p : Path}

/-! ### Directories that have been made -/

/-- A directory stands at a place once the directory of a path has been made. -/
def Disk.HasDirectory (d : Disk) (p : Path) (place : Place) : Prop :=
  d.get? place = some .directory ∨ ∃ above, above <+: p.parts ∧ place = walk (d.start p) above

theorem Disk.HasMade.get?_eq_directory_iff (h : d.HasMade p made) {place : Place} :
    made.get? place = some .directory ↔ d.HasDirectory p place := by
  constructor
  · intro hplace
    by_cases hway : ∃ above, above <+: p.parts ∧ place = walk (d.start p) above
    · exact .inr hway
    · rw [h.kept place fun above habove heq => hway ⟨above, habove, heq⟩] at hplace
      exact .inl hplace
  · rintro (hplace | ⟨above, habove, rfl⟩)
    · exact h.directories place hplace
    · rw [← h.start]
      exact h.reaches above habove

/-- Writing the file of a table fails because a directory stands at its place. -/
def Disk.BlocksTable (d : Disk) (directory : Path) (name : String) : Prop :=
  d.HasDirectory directory (d.target (tableFile directory name))

/-- Writing the file of a table fails because a directory stands at its place or the operating system does not take its
path. -/
def Disk.RefusesTable (d : Disk) (directory : Path) (name : String) : Prop :=
  d.BlocksTable directory name ∨ ¬d.Takes (tableFile directory name)

theorem Disk.HasMade.admits_iff (h : d.HasMade p made) (name : String) :
    made.Admits p (fileName name) ↔ ¬d.RefusesTable p name := by
  rw [Disk.RefusesTable, Disk.BlocksTable, target_tableFile, not_or, not_not, ← h.get?_eq_directory_iff]
  constructor
  · rintro ⟨htakes, hfree⟩
    exact ⟨h.target p ▸ hfree, h.takes_iff.1 htakes⟩
  · rintro ⟨hfree, htakes⟩
    exact ⟨h.takes_iff.2 htakes, h.target p ▸ hfree⟩

/-! ### The effect -/

/-- Tables of a text are written into a directory, up to the first one at which writing stops.  Each file holds the text
of its table afterwards, and no other file changes. -/
structure WritesTables (d after : Disk) (text : String) (directory : Path) (Stops : String → Prop)
    (written : List (String × String)) (result : Except FileError (List Path)) : Prop where
  begins : written <+: splitTables text
  free : ∀ table ∈ written, ¬Stops table.1
  ends : written = splitTables text ∧
      result = .ok ((splitTables text).map fun table => tableFile directory table.1) ∨
    ∃ table fault, written ++ [table] <+: splitTables text ∧ Stops table.1 ∧
      result = .error ⟨fault, tableFile directory table.1⟩
  holds : ∀ table ∈ written, after.read (tableFile directory table.1) = .ok (encodeUtf8 table.2.toList)
  keeps : ∀ place bytes, (∀ table ∈ written, place ≠ d.target (tableFile directory table.1)) →
    (after.get? place = some (.file bytes) ↔ d.get? place = some (.file bytes))

/-- What writing the tables of a text into a directory does, in terms of when the directory can be made and at which
tables writing stops. -/
structure SplitEffect (d : Disk) (text : String) (directory : Path) (Makes : Prop) (Stops : String → Prop) :
    Prop where
  refused : ¬Makes → ∃ e after, (Change.makeDirectory directory).run.run d = (.error e, after) ∧
    (writeSplit text directory).run.run d = (.error e, after) ∧ d.SameFiles after
  written : Makes → ∃ made written result after, (Change.makeDirectory directory).run.run d = (.ok (), made) ∧
    (writeSplit text directory).run.run d = (result, after) ∧
    WritesTables d after text directory Stops written result
  apart : ((splitTables text).map fun table => tableFile directory table.1).Nodup
  inside : ∀ table ∈ splitTables text, (tableFile directory table.1).parent = directory ∧
    '/' ∉ table.1.toList ∧ '.' ∉ table.1.toList

theorem nodup_tableFiles (text : String) (directory : Path) :
    ((splitTables text).map fun table => tableFile directory table.1).Nodup := by
  have hchild : ∀ name name' : String, directory.child name = directory.child name' → name = name' := by
    intro name name' h
    simpa [Path.child] using h
  have hmap := (nodup_fileNames text).map (f := directory.child) hchild
  rwa [List.map_map] at hmap

theorem inside_tableFile {text : String} {table : String × String} (htable : table ∈ splitTables text)
    (directory : Path) : (tableFile directory table.1).parent = directory ∧
      '/' ∉ table.1.toList ∧ '.' ∉ table.1.toList := by
  have hword := isWord_of_mem_splitTables htable
  refine ⟨?_, fun h => absurd (hword _ h) (by decide +kernel), fun h => absurd (hword _ h) (by decide +kernel)⟩
  rw [tableFile, Path.child, Path.parent, List.dropLast_concat]

/-- Once the directory is made, tables are written into it up to the first one that is refused. -/
theorem exists_writesTables (text : String) (hrun : (Change.makeDirectory p).run.run d = (.ok (), made))
    (hmade : d.HasMade p made) : ∃ written result after, (writeSplit text p).run.run d = (result, after) ∧
      WritesTables d after text p (d.RefusesTable p) written result := by
  obtain ⟨written, result, hwrite, hwritten, hends⟩ := exists_run_writeSplit_of_enters text hrun hmade.reaches
  -- What was written is all or ends before the first table that is not admitted.
  have hbegins : written <+: splitTables text := by
    rcases hends with ⟨rfl, -⟩ | ⟨table, fault, hmore, -⟩
    · exact List.prefix_rfl
    · exact (List.prefix_append written [table]).trans hmore
  have hnames : (((written.map fun table => (fileName table.1, encodeUtf8 table.2.toList))).map (·.1)).Nodup := by
    rw [List.map_map]
    exact (nodup_fileNames text).sublist (hbegins.sublist.map _)
  have hfree : ∀ file ∈ written.map fun table => (fileName table.1, encodeUtf8 table.2.toList),
      made.get? (made.target p ++ [file.1]) ≠ some .directory := by
    rw [List.forall_mem_map]
    exact fun table htable => (hwritten table htable).free
  refine ⟨written, result, _, hwrite, hbegins, fun table htable => (hmade.admits_iff table.1).1 (hwritten table htable),
    ?_, fun table htable => ?_, fun place bytes hplace => ?_⟩
  · rcases hends with hall | ⟨table, fault, hmore, hfirst, -, hresult⟩
    · exact .inl hall
    · exact .inr ⟨table, fault, hmore, not_not.1 fun h => hfirst ((hmade.admits_iff table.1).2 h), hresult⟩
  · rw [Disk.read_eq_ok_iff]
    refine ⟨_, (hmade.reaches.writeFiles hfree).locate_child (fileName_ne_parent table.1)
      (Disk.takes_writeFiles.2 (hwritten table htable).takes), ?_⟩
    rw [Disk.target_writeFiles]
    exact Disk.get?_writeFiles_of_mem hnames (List.mem_map_of_mem htable)
  · rw [← hmade.files, Disk.get?_writeFiles_of_ne]
    rw [List.forall_mem_map]
    intro table htable
    rw [hmade.target, ← target_tableFile]
    exact hplace table htable

/-- The effect of writing the tables of a text into a directory. -/
theorem writeSplit_effect (d : Disk) (text directory : String) : SplitEffect d text (Path.ofString directory)
    (d.Takes (Path.ofString directory) ∧ d.Clear (Path.ofString directory))
    (d.RefusesTable (Path.ofString directory)) where
  refused hnot := by
    rw [← Change.exists_run_makeDirectory_iff (Path.not_mem_parts_ofString directory)] at hnot
    have hgrows := Change.run_makeDirectory_grows (Path.ofString directory) d
    rcases hrun : (Change.makeDirectory (Path.ofString directory)).run.run d with ⟨e | _, after⟩
    · rw [hrun] at hgrows
      refine ⟨e, after, rfl, ?_, hgrows.files⟩
      unfold writeSplit
      rw [run_bind, hrun]
    · exact absurd ⟨after, hrun⟩ hnot
  written := by
    rintro ⟨htakes, hclear⟩
    obtain ⟨made, hrun, hmade⟩ := Change.exists_run_makeAll
      (fun _ => htakes.of_prefix (Path.not_mem_parts_ofString directory)) hclear rfl
    obtain ⟨written, result, after, hwrite, hwrites⟩ := exists_writesTables text hrun hmade
    exact ⟨made, written, result, after, hrun, hwrite, hwrites⟩
  apart := nodup_tableFiles text (Path.ofString directory)
  inside _ htable := inside_tableFile htable (Path.ofString directory)

/-! ### What the operating system does not take -/

/-- An empty disk with the limits of a usual file system. -/
def usualDisk : Disk :=
  ⟨[], [], .usual⟩

/-- A table whose file name is longer than the names of a usual file system. -/
def longTable : Extract :=
  ⟨List.replicate 248 'A', [' '], []⟩

theorem shaped_longTable : longTable.Shaped where
  name_ne_nil h := absurd ((List.replicate_eq_nil_iff 'A').1 h) (by decide)
  name _ hc := List.eq_of_mem_replicate hc ▸ rfl
  maximal c hc := by
    obtain rfl := Option.some.inj hc
    decide
  header := by decide
  body := by decide

theorem not_takes_longTable (directory : Path) : ¬usualDisk.Takes (tableFile directory longTable.entry.1) := by
  intro h
  have hlong : Disk.exceeds usualDisk.limits.name (fileName longTable.entry.1) = true := by decide +kernel
  have hshort := h.parts (fileName longTable.entry.1) List.mem_concat_self (fileName_ne_parent _)
  rw [hlong] at hshort
  cases hshort

theorem get?_usualDisk {place : Place} (hplace : place ≠ []) : usualDisk.get? place = none :=
  if_neg hplace

theorem clear_usualDisk (p : Path) : usualDisk.Clear p := by
  intro above _ bytes hfile
  by_cases hplace : walk (usualDisk.start p) above = []
  · rw [hplace] at hfile
    cases hfile
  · rw [get?_usualDisk hplace] at hfile
    cases hfile

theorem not_blocksTable_usualDisk (name : String) : ¬usualDisk.BlocksTable (Path.ofString "out") name := by
  have hparts : (Path.ofString "out").parts = ["out"] := by decide +kernel
  have htarget : usualDisk.target (tableFile (Path.ofString "out") name) = ["out", fileName name] := by
    rw [target_tableFile]
    rfl
  rw [Disk.BlocksTable, htarget]
  rintro (hplace | ⟨above, habove, hplace⟩)
  · rw [get?_usualDisk (List.cons_ne_nil _ _)] at hplace
    cases hplace
  · have habove : above = [] ∨ above = ["out"] := by
      rw [hparts, ← List.mem_inits] at habove
      simpa using habove
    rcases habove with rfl | rfl
    · cases hplace
    · cases hplace

/-- Files of split tables are not written, although neither a file nor a directory is in their way, if their names are
too long or the path of the directory holds a null character. -/
theorem not_splitEffect :
    ¬SplitEffect usualDisk longTable.entry.2 (Path.ofString "out") (usualDisk.Clear (Path.ofString "out"))
      (usualDisk.BlocksTable (Path.ofString "out")) ∧
    ¬SplitEffect usualDisk "type A \x7b\x7d" (Path.ofString "x\x00") (usualDisk.Clear (Path.ofString "x\x00"))
      (usualDisk.BlocksTable (Path.ofString "x\x00")) := by
  constructor
  · intro h
    obtain ⟨made, written, result, after, hrun, hwrite, hwrites⟩ := h.written (clear_usualDisk _)
    have hlimits : made.limits = usualDisk.limits := by
      have hgrows := Change.run_makeDirectory_grows (Path.ofString "out") usualDisk
      rw [hrun] at hgrows
      exact hgrows.limits
    have htables : splitTables longTable.entry.2 = [longTable.entry] := shaped_longTable.splitTables_eq
    obtain ⟨admitted, result', hwrite', hadmits, hends⟩ :=
      exists_run_writeSplit_of_enters longTable.entry.2 hrun (Change.enters_of_run_makeAll hrun).2
    rw [hwrite] at hwrite'
    cases hwrite'
    rcases hends with ⟨rfl, -⟩ | ⟨first, fault, -, -, -, rfl⟩
    · have hadmits := hadmits longTable.entry (htables ▸ List.mem_singleton_self _)
      exact not_takes_longTable _ ((Disk.takes_congr hlimits).1 hadmits.takes)
    · rcases hwrites.ends with ⟨-, hok⟩ | ⟨table, -, -, hblocks, -⟩
      · cases hok
      · exact not_blocksTable_usualDisk table.1 hblocks
  · intro h
    obtain ⟨made, written, result, after, hrun, -⟩ := h.written (clear_usualDisk _)
    have hpart : "x\x00" ∈ (Path.ofString "x\x00").parts := by decide +kernel
    rw [Change.run_makeDirectory_of_nullCharacter (Disk.locate_eq_nullCharacter hpart (by decide))] at hrun
    cases hrun

end TableSchema.Files
