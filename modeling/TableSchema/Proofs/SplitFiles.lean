import TableSchema.Files.Split
import TableSchema.Proofs.Directories
import TableSchema.Proofs.Extracts
import TableSchema.Proofs.FirstFinding
import TableSchema.Proofs.Loading

/-!
# Split files load back

The names of tables are made of word characters, so every table has a file of its own in the directory, and the default
pattern selects all of them.  Writing them with `writeSplit` and loading the directory gives one source per table, in
the order of the file names, whose body is the text of the table with its line endings unified
(`loadsBack_of_vacant`).  A null character in the path is refused by the operating system (`not_loadsBack`).
-/

namespace TableSchema.Files

open Syntax Text

/-! ### The names of the files -/

/-- The name of a table consists of word characters. -/
theorem isWord_of_mem_splitTables {text : String} {table : String × String} (htable : table ∈ splitTables text) :
    ∀ c ∈ table.1.toList, isWord c = true := by
  obtain ⟨e, he, rfl⟩ := Extract.exists_shaped_of_mem_splitTables htable
  rw [Extract.entry, String.toList_ofList]
  exact he.name

/-- The file name of a table. -/
def fileName (name : String) : String :=
  name ++ ".graphql"

theorem fileName_inj {name name' : String} : fileName name = fileName name' ↔ name = name' := by
  rw [← String.toList_inj, fileName, fileName, String.toList_append, String.toList_append, List.append_left_inj,
    String.toList_inj]

theorem isSchemaFile_fileName (name : String) : isSchemaFile (fileName name) = true := by
  rw [isSchemaFile, List.isSuffixOf_iff_suffix, fileName, String.toList_append]
  exact List.suffix_append _ _

/-- Different tables have different files. -/
theorem nodup_fileNames (text : String) : ((splitTables text).map fun table => fileName table.1).Nodup := by
  have hnames := Dictionary.nodup_keys_ofList ((Extract.all text.toList).map Extract.entry)
  have hmap := hnames.map (f := fileName) fun _ _ => fileName_inj.1
  rwa [List.map_map] at hmap

theorem fileName_ne_parent (name : String) : fileName name ≠ ".." := by
  intro h
  have hlength := congrArg (·.toList.length) h
  simp [fileName] at hlength

theorem target_tableFile (d : Disk) (directory : Path) (name : String) :
    d.target (tableFile directory name) = d.target directory ++ [fileName name] :=
  Disk.target_child (fileName_ne_parent name)

theorem descends_tableFile {directory : Path} {name : String} (hp : directory.Descends)
    (hname : ∀ c ∈ name.toList, isWord c = true) : (tableFile directory name).Descends := by
  constructor
  · intro h
    rcases List.mem_append.1 h with h | h
    · exact hp.no_parent h
    · exact fileName_ne_parent name (List.mem_singleton.1 h).symm
  · intro part hpart hnull
    rcases List.mem_append.1 hpart with hpart | hpart
    · exact hp.no_null part hpart hnull
    · rw [List.mem_singleton.1 hpart, String.toList_append] at hnull
      rcases List.mem_append.1 hnull with hnull | hnull
      · exact absurd (hname _ hnull) (by decide +kernel)
      · exact absurd hnull (by decide)

/-! ### Directories with room -/

/-- Every entry of a disk stands in a directory. -/
def Disk.IsTree (d : Disk) : Prop :=
  ∀ place entry, d.get? place = some entry → d.get? place.dropLast = some .directory

theorem Disk.isTree_iff {d : Disk} : d.IsTree ↔ ∀ e ∈ d.entries, d.get? e.1.dropLast = some .directory := by
  constructor
  · rintro htree ⟨place, entry⟩ hentry
    by_cases hplace : place = []
    · subst hplace
      rfl
    · cases hget : d.get? place with
      | none => exact absurd hentry ((Disk.get?_eq_none_iff hplace).1 hget entry)
      | some other => exact htree place other hget
  · intro hentries place entry hget
    by_cases hplace : place = []
    · subst hplace
      rfl
    · exact hentries (place, entry) (Disk.mem_entries_of_get? hplace hget)

instance (d : Disk) : Decidable d.IsTree :=
  decidable_of_iff _ Disk.isTree_iff.symm

/-- At the place of a path stands nothing or an empty directory, and before it stands nothing or a directory. -/
structure Disk.Vacant (d : Disk) (p : Path) : Prop where
  above : ∀ above, above <+: p.parts → above ≠ p.parts →
    d.get? (d.start p ++ above) = none ∨ d.get? (d.start p ++ above) = some .directory
  place : d.get? (d.placeOf p) = none ∨
    d.get? (d.placeOf p) = some .directory ∧ d.children (d.placeOf p) = []

theorem Disk.vacant_iff {d : Disk} {p : Path} : d.Vacant p ↔
    (∀ above ∈ p.parts.inits, above ≠ p.parts →
      d.get? (d.start p ++ above) = none ∨ d.get? (d.start p ++ above) = some .directory) ∧
    (d.get? (d.placeOf p) = none ∨ d.get? (d.placeOf p) = some .directory ∧ d.children (d.placeOf p) = []) := by
  simp only [List.mem_inits]
  exact ⟨fun h => ⟨h.above, h.place⟩, fun h => ⟨h.1, h.2⟩⟩

instance (d : Disk) (p : Path) : Decidable (d.Vacant p) :=
  decidable_of_iff _ Disk.vacant_iff.symm

/-- The directory that is made for a path is empty. -/
theorem children_of_hasMade {d made : Disk} {p : Path} (htree : d.IsTree) (hp : p.Descends) (hvacant : d.Vacant p)
    (hmade : d.HasMade p made) : made.children (made.placeOf p) = [] := by
  rw [hmade.placeOf, Disk.children_eq_nil_iff]
  intro name
  rw [hmade.kept _ fun above habove => Disk.placeOf_append_ne hp name habove]
  rcases hvacant.place with hnone | ⟨-, hempty⟩
  · by_contra hsome
    obtain ⟨entry, hentry⟩ := Option.ne_none_iff_exists'.1 hsome
    have hparent := htree _ _ hentry
    rw [List.dropLast_concat, hnone] at hparent
    cases hparent
  · exact Disk.children_eq_nil_iff.1 hempty name

theorem unblocked_of_vacant {d : Disk} {p : Path} (hvacant : d.Vacant p) : d.Unblocked p := by
  intro above habove bytes hfile
  by_cases hlast : above = p.parts
  · rw [hlast] at hfile
    rcases hvacant.place with h | ⟨h, -⟩
    all_goals
      rw [Disk.placeOf, hfile] at h
      cases h
  · rcases hvacant.above above habove hlast with h | h
    all_goals
      rw [hfile] at h
      cases h

/-! ### Writing -/

/-- The files of the tables of a text. -/
def writtenFiles (text : String) : List (String × List UInt8) :=
  (splitTables text).map fun table => (fileName table.1, encodeUtf8 table.2.toList)

theorem nodup_names_writtenFiles (text : String) : ((writtenFiles text).map (·.1)).Nodup := by
  rw [writtenFiles, List.map_map]
  exact nodup_fileNames text

/-- A directory that holds one file per table of a text and nothing else. -/
structure HoldsTables (d : Disk) (text : String) (directory : Path) : Prop where
  limits : d.limits = .unbounded
  reaches : d.Enters directory
  children : d.children (d.placeOf directory) = (writtenFiles text).map fun file => (file.1, .file file.2)
  file : ∀ file ∈ writtenFiles text, d.get? (d.placeOf directory ++ [file.1]) = some (.file file.2)

/-- The tables of a text are written into a directory that has been made, up to the first one that it does not
admit. -/
theorem exists_run_writeSplit_of_enters {d made : Disk} {directory : Path} (text : String)
    (hrun : (Change.makeDirectory directory).run.run d = (.ok (), made)) (henters : made.Enters directory) :
    ∃ (written : List (String × String)) (result : Except FileError (List Path)),
      (writeSplit text directory).run.run d = (result, made.writeFiles (made.target directory)
        (written.map fun table => (fileName table.1, encodeUtf8 table.2.toList))) ∧
      (∀ table ∈ written, made.Admits directory (fileName table.1)) ∧
      (written = splitTables text ∧
          result = .ok ((splitTables text).map fun table => tableFile directory table.1) ∨
        ∃ table fault, written ++ [table] <+: splitTables text ∧ ¬made.Admits directory (fileName table.1) ∧
          (made.Takes (tableFile directory table.1) → fault = .isDirectory) ∧
          result = .error ⟨fault, tableFile directory table.1⟩) := by
  unfold writeSplit
  rw [run_bind, hrun]
  exact Change.run_mapM_writeFile (fun table : String × String => fileName table.1)
    (fun table => encodeUtf8 table.2.toList) (fun table _ => fileName_ne_parent table.1) henters

/-- The tables of a text are written into an empty directory. -/
theorem exists_run_writeSplit {d made : Disk} {directory : Path} (text : String)
    (hrun : (Change.makeDirectory directory).run.run d = (.ok (), made)) (hlimits : made.limits = .unbounded)
    (hp : directory.Descends) (hreaches : made.Enters directory)
    (hempty : made.children (made.placeOf directory) = []) :
    ∃ after, (writeSplit text directory).run.run d =
        (.ok ((splitTables text).map fun table => tableFile directory table.1), after) ∧
      HoldsTables after text directory := by
  have hplace := Disk.target_eq_placeOf (d := made) hp
  have hadmits : ∀ table ∈ splitTables text, made.Admits directory (fileName table.1) := by
    intro table htable
    refine ⟨(descends_tableFile hp (isWord_of_mem_splitTables htable)).takes hlimits, ?_⟩
    rw [hplace, Disk.children_eq_nil_iff.1 hempty]
    exact (Option.some_ne_none _).symm
  obtain ⟨written, result, hwrite, hwritten, ⟨rfl, rfl⟩ | ⟨table, fault, hbegins, hfirst, -, -⟩⟩ :=
    exists_run_writeSplit_of_enters text hrun hreaches
  · have hfree : ∀ file ∈ writtenFiles text, made.get? (made.placeOf directory ++ [file.1]) ≠ some .directory := by
      rw [writtenFiles, List.forall_mem_map]
      exact fun table htable => hplace ▸ (hadmits table htable).free
    rw [hplace] at hwrite
    refine ⟨_, hwrite, ?_, hreaches.writeFiles hfree, ?_, ?_⟩
    · rw [Disk.limits_writeFiles, hlimits]
    · rw [Disk.placeOf_writeFiles]
      exact Disk.children_writeFiles hempty (nodup_names_writtenFiles text)
    · intro file hfile
      rw [Disk.placeOf_writeFiles]
      exact Disk.get?_writeFiles_of_mem (nodup_names_writtenFiles text) hfile
  · exact absurd (hadmits table (hbegins.subset (List.mem_concat_self))) hfirst

/-! ### Loading -/

/-- The tables of a text in the order of their file names. -/
def tablesByFileName (text : String) : List (String × String) :=
  (splitTables text).mergeSort fun a b => decide (fileName a.1 ≤ fileName b.1)

theorem map_tablesByFileName (text : String) : (tablesByFileName text).map (fun table => fileName table.1) =
    ((splitTables text).map fun table => fileName table.1).mergeSort fun a b => decide (a ≤ b) :=
  List.map_mergeSort fun _ _ _ _ => rfl

/-- The source that the file of a table is loaded as. -/
def loadedSource (directory : Path) (table : String × String) : Source :=
  .ofText (tableFile directory table.1).toString (String.ofList (normalizeNewlines table.2.toList))

namespace HoldsTables

variable {d : Disk} {text : String} {directory : Path}

theorem expand_eq (h : HoldsTables d text directory) (hp : directory.Descends) :
    expand d defaultPattern directory =
      .ok ((tablesByFileName text).map fun table => tableFile directory table.1) := by
  have hlocate := Disk.locate_eq_ok_iff.2 ⟨hp.takes h.limits, h.reaches.leads, Disk.target_eq_placeOf hp⟩
  have hnames : ((d.children (d.placeOf directory)).map (·.1)).filter isSchemaFile =
      (splitTables text).map fun table => fileName table.1 := by
    rw [h.children, writtenFiles, List.map_map, List.map_map]
    refine List.filter_eq_self.2 fun name hname => ?_
    obtain ⟨table, -, rfl⟩ := List.mem_map.1 hname
    exact isSchemaFile_fileName table.1
  have hplace : d.get? (d.placeOf directory) = some .directory := Disk.target_eq_placeOf hp ▸ h.reaches.target
  rw [expand_defaultPattern hlocate hplace, hnames, ← map_tablesByFileName, List.map_map]
  rfl

theorem readSource_eq (h : HoldsTables d text directory) (hp : directory.Descends) {table : String × String}
    (htable : table ∈ splitTables text) :
    readSource d (tableFile directory table.1) = .ok (loadedSource directory table) := by
  have htakes := (descends_tableFile hp (isWord_of_mem_splitTables htable)).takes h.limits
  have hlocate := h.reaches.locate_child (fileName_ne_parent table.1) htakes
  rw [Disk.target_eq_placeOf hp] at hlocate
  have hread := Disk.read_eq_ok_iff.2 ⟨_, hlocate, h.file _ (List.mem_map_of_mem htable)⟩
  exact readSource_eq_ok_iff.2 ⟨table.2.toList, hread, rfl⟩

/-- The directory is loaded as one source per table. -/
theorem loadSources_eq (h : HoldsTables d text directory) (hp : directory.Descends) :
    loadSources d defaultPattern [directory] = .ok ((tablesByFileName text).map (loadedSource directory)) := by
  have hload : loadPath d defaultPattern directory = .ok ((tablesByFileName text).map (loadedSource directory)) := by
    rw [loadPath, h.expand_eq hp]
    change List.mapM _ _ = _
    rw [mapM_eq_ok_iff, List.forall₂_map_left_iff, List.forall₂_map_right_iff, List.forall₂_same]
    exact fun table htable => h.readSource_eq hp ((List.mergeSort_perm _ _).mem_iff.1 htable)
  have hone : [directory].mapM (loadPath d defaultPattern) =
      .ok [(tablesByFileName text).map (loadedSource directory)] := by
    rw [mapM_eq_ok_iff, List.forall₂_cons]
    exact ⟨hload, .nil⟩
  rw [loadSources, hone]
  exact congrArg Except.ok List.flatten_singleton

end HoldsTables

/-! ### Writing and loading -/

/-- Writing the tables of a text into a directory succeeds, and loading the directory afterwards gives the tables in the
order of their file names. -/
def LoadsBack (d : Disk) (text : String) (directory : Path) : Prop :=
  ∃ (after : Disk) (tables : List (String × String)),
    (writeSplit text directory).run.run d =
      (.ok ((splitTables text).map fun table => tableFile directory table.1), after) ∧
    tables.Perm (splitTables text) ∧
    (tables.map fun table => fileName table.1).Pairwise (· < ·) ∧
    loadSources after defaultPattern [directory] = .ok (tables.map (loadedSource directory))

/-- What is written into a new or an empty directory loads back. -/
theorem loadsBack_of_vacant {d : Disk} {directory : Path} (text : String) (htree : d.IsTree)
    (hlimits : d.limits = .unbounded) (hp : directory.Descends) (hvacant : d.Vacant directory) :
    LoadsBack d text directory := by
  obtain ⟨made, hmake, hmade⟩ := Change.exists_run_makeDirectory hlimits hp (unblocked_of_vacant hvacant)
  obtain ⟨after, hrun, hholds⟩ := exists_run_writeSplit text hmake (hmade.limits.trans hlimits) hp hmade.reaches
    (children_of_hasMade htree hp hvacant hmade)
  refine ⟨after, tablesByFileName text, hrun, List.mergeSort_perm _ _, ?_, hholds.loadSources_eq hp⟩
  rw [map_tablesByFileName]
  exact pairwise_mergeSort_of_nodup (nodup_fileNames text)

/-- A disk with a file and an empty directory in the working directory. -/
def sampleDisk : Disk :=
  .ofEntries .unbounded ["work"] [(["work", "a.graphql"], .file [0xff]), (["work", "old"], .directory)]

theorem loadsBack_of_vacant_below_old : sampleDisk.IsTree ∧ sampleDisk.limits = .unbounded ∧
    (Path.ofString "old//new/.").Descends ∧ sampleDisk.Vacant (Path.ofString "old//new/.") ∧
    LoadsBack sampleDisk "type B \x7b\x7d type A \x7b\r\n\x7d type B \x7b x \x7d" (Path.ofString "old//new/.") :=
  ⟨by decide +kernel, rfl, by decide +kernel, by decide +kernel,
    loadsBack_of_vacant _ (by decide +kernel) rfl (by decide +kernel) (by decide +kernel)⟩

/-- No file is written into a directory whose path holds a null character. -/
theorem run_writeSplit_of_null {d : Disk} {directory : Path} {part : String} (text : String)
    (hpart : part ∈ directory.parts) (hnull : '\x00' ∈ part.toList) :
    (writeSplit text directory).run.run d = (.error ⟨.nullCharacter, directory⟩, d) := by
  unfold writeSplit
  rw [run_bind, Change.run_makeDirectory_of_nullCharacter (Disk.locate_eq_nullCharacter hpart hnull)]

/-- A path with a null character leads nowhere, but nothing is written there either. -/
theorem not_loadsBack : ∃ d text directory,
    d.IsTree ∧ d.limits = .unbounded ∧ ".." ∉ directory.parts ∧ d.Vacant directory ∧ ¬LoadsBack d text directory := by
  refine ⟨sampleDisk, "type A \x7b\x7d", Path.ofString "x\x00", by decide +kernel, rfl, by decide +kernel,
    by decide +kernel, ?_⟩
  rintro ⟨after, tables, hrun, -⟩
  have hpart : "x\x00" ∈ (Path.ofString "x\x00").parts := by decide +kernel
  rw [run_writeSplit_of_null _ hpart (by decide)] at hrun
  cases hrun

end TableSchema.Files
