import Mathlib.Data.List.Sort
import TableSchema.Proofs.DiskChanges
import TableSchema.Proofs.FirstFinding
import TableSchema.Proofs.Loading

/-!
# What is loaded

A path is loaded if it leads to a file that holds a text as UTF-8, or to a directory in which all entries whose names
end in `.graphql` are such files.  Main statement: loading paths gives the sources of all of them in order, those of a
directory sorted by name, or fails at the first one that cannot be loaded; the order in which directories list their
entries has no part in it (`loadSources_effect`).  The path of a file in a directory can be too long although the path
of the directory is not (`not_loadEffect`).
-/

namespace TableSchema.Files

open Syntax Text

namespace Disk

variable {d d' : Disk} {p : Path}

/-! ### The order of entries -/

theorem get?_eq_some_iff (hentries : (d.entries.map (·.1)).Nodup) {place : Place} (hplace : place ≠ [])
    {entry : Entry} : d.get? place = some entry ↔ (place, entry) ∈ d.entries := by
  refine ⟨mem_entries_of_get? hplace, fun hmem => ?_⟩
  cases hget : d.get? place with
  | none => exact absurd hmem ((get?_eq_none_iff hplace).1 hget entry)
  | some other =>
    have heq := List.inj_on_of_nodup_map hentries (mem_entries_of_get? hplace hget) hmem rfl
    cases heq
    rfl

/-- Where no place has two entries, their order does not matter. -/
theorem get?_of_perm (hentries : (d.entries.map (·.1)).Nodup) (hperm : d'.entries.Perm d.entries) (place : Place) :
    d'.get? place = d.get? place := by
  by_cases hplace : place = []
  · rw [hplace]
    rfl
  · have hentries' : (d'.entries.map (·.1)).Nodup := (hperm.map (·.1)).nodup_iff.2 hentries
    refine Option.ext fun entry => ?_
    rw [get?_eq_some_iff hentries' hplace, get?_eq_some_iff hentries hplace, hperm.mem_iff]

theorem locate_congr (hget : ∀ place, d'.get? place = d.get? place)
    (hworking : d'.workingDirectory = d.workingDirectory) (hlimits : d'.limits = d.limits) (p : Path) :
    d'.locate p = d.locate p := by
  have henter : d'.enter = d.enter := by
    funext place part
    rw [enter, enter, hget, hlimits]
  rw [locate, locate, henter, hworking, hlimits]

theorem look_congr (hget : ∀ place, d'.get? place = d.get? place)
    (hworking : d'.workingDirectory = d.workingDirectory) (hlimits : d'.limits = d.limits) (p : Path) :
    d'.look p = d.look p := by
  unfold look
  rw [locate_congr hget hworking hlimits]
  simp only [hget]

/-! ### The files of a directory -/

/-- The default pattern selects an entry of the directory to which a path leads. -/
def IsSchemaChild (d : Disk) (p : Path) (name : String) : Prop :=
  isSchemaFile name = true ∧ d.get? (d.target p ++ [name]) ≠ none

/-- The names in the directory to which a path leads that the default pattern selects, sorted. -/
def schemaNames (d : Disk) (p : Path) : List String :=
  (((d.children (d.target p)).map (·.1)).filter isSchemaFile).mergeSort fun a b => decide (a ≤ b)

theorem mem_schemaNames_iff {name : String} : name ∈ d.schemaNames p ↔ d.IsSchemaChild p name := by
  have hchild : name ∈ (d.children (d.target p)).map (·.1) ↔ d.get? (d.target p ++ [name]) ≠ none := by
    rw [ne_eq, get?_eq_none_iff (by simp), not_forall_not, List.mem_map]
    constructor
    · rintro ⟨⟨_, entry⟩, hmem, rfl⟩
      exact ⟨entry, mem_children_iff.1 hmem⟩
    · rintro ⟨entry, hmem⟩
      exact ⟨(name, entry), mem_children_iff.2 hmem, rfl⟩
  rw [schemaNames, (List.mergeSort_perm _ _).mem_iff, List.mem_filter, hchild, and_comm, IsSchemaChild]

theorem pairwise_schemaNames (hentries : (d.entries.map (·.1)).Nodup) (p : Path) :
    (d.schemaNames p).Pairwise (· < ·) :=
  pairwise_mergeSort_of_nodup ((nodup_children hentries _).filter _)

theorem schemaNames_of_perm (hentries : (d.entries.map (·.1)).Nodup) (hperm : d'.entries.Perm d.entries)
    (hworking : d'.workingDirectory = d.workingDirectory) (p : Path) : d'.schemaNames p = d.schemaNames p := by
  have hentries' : (d'.entries.map (·.1)).Nodup := (hperm.map (·.1)).nodup_iff.2 hentries
  refine (pairwise_schemaNames hentries' p).eq_of_mem_iff (pairwise_schemaNames hentries p) fun name => ?_
  rw [mem_schemaNames_iff, mem_schemaNames_iff, IsSchemaChild, IsSchemaChild, get?_of_perm hentries hperm, target,
    target, start, start, hworking]

/-- A file that the default pattern selects is found at its path. -/
theorem Enters.locate_schemaFile {name : String} (h : d.Enters p) (hname : isSchemaFile name = true)
    (htakes : d.Takes (p.child name)) : d.locate (p.child name) = .ok (d.target p ++ [name]) := by
  refine h.locate_child ?_ htakes
  rintro rfl
  exact absurd hname (by decide)

/-! ### What a path is loaded as -/

/-- A path leads to a file that holds a text as UTF-8. -/
def HoldsText (d : Disk) (p : Path) : Prop :=
  ∃ text, d.read p = .ok (encodeUtf8 text)

theorem Enters.holdsText_child_iff {name : String} (h : d.Enters p) (hname : isSchemaFile name = true) :
    d.HoldsText (p.child name) ↔
      d.Takes (p.child name) ∧ ∃ text, d.get? (d.target p ++ [name]) = some (.file (encodeUtf8 text)) := by
  constructor
  · rintro ⟨text, hread⟩
    obtain ⟨place, hlocate, hplace⟩ := read_eq_ok_iff.1 hread
    have htakes := (locate_eq_ok_iff.1 hlocate).1
    cases hlocate.symm.trans (h.locate_schemaFile hname htakes)
    exact ⟨htakes, text, hplace⟩
  · rintro ⟨htakes, text, hplace⟩
    exact ⟨text, read_eq_ok_iff.2 ⟨_, h.locate_schemaFile hname htakes, hplace⟩⟩

/-- A path leads to a file that holds a text as UTF-8, or to a directory in which everything that the default pattern
selects is such a file and has a path that is admitted. -/
def Loadable (d : Disk) (Admits : Path → Prop) (p : Path) : Prop :=
  d.HoldsText p ∨ d.look p = .ok .directory ∧
    ∀ name entry, isSchemaFile name = true → d.get? (d.target p ++ [name]) = some entry →
      Admits (p.child name) ∧ ∃ text, entry = .file (encodeUtf8 text)

/-- The sources that a path is loaded as: that of the file to which it leads, or those of the selected files of the
directory to which it leads, sorted by name. -/
inductive LoadsAs (d : Disk) (p : Path) : List Source → Prop
  | file {text : List Char} (hread : d.read p = .ok (encodeUtf8 text)) : d.LoadsAs p [sourceOf p text]
  | directory {names : List String} {sources : List Source} (hlook : d.look p = .ok .directory)
    (hsorted : names.Pairwise (· < ·)) (hcomplete : ∀ name, name ∈ names ↔ d.IsSchemaChild p name)
    (hsources : List.Forall₂ (fun name source => ∃ text, d.read (p.child name) = .ok (encodeUtf8 text) ∧
      sourceOf (p.child name) text = source) names sources) : d.LoadsAs p sources

/-- Loading a path fails: the file to which it should lead cannot be read, or in the directory to which it leads the
first of the selected files that cannot be read. -/
inductive Refuses (d : Disk) (p : Path) (e : LoadError) : Prop
  | file (hlook : d.look p ≠ .ok .directory) (hfails : d.ReadFails p e)
  | directory {name : String} (hlook : d.look p = .ok .directory) (hname : d.IsSchemaChild p name)
    (hfails : d.ReadFails (p.child name) e)
    (hfirst : ∀ earlier < name, d.IsSchemaChild p earlier → d.HoldsText (p.child earlier))

end Disk

section Loading

variable {d d' : Disk} {p : Path}

theorem exists_readSource_eq_ok_iff : (∃ source, readSource d p = .ok source) ↔ d.HoldsText p := by
  simp only [readSource_eq_ok_iff, Disk.HoldsText]
  exact ⟨fun ⟨_, text, hread, _⟩ => ⟨text, hread⟩, fun ⟨text, hread⟩ => ⟨_, text, hread, rfl⟩⟩

theorem loadPath_of_not_directory (hlook : d.look p ≠ .ok .directory) :
    loadPath d defaultPattern p = [p].mapM (readSource d) := by
  have hdirectory : ¬d.isDirectory p = true := by
    unfold Disk.isDirectory
    split
    · contradiction
    · exact Bool.false_ne_true
  rw [loadPath, expand, if_neg hdirectory]
  rfl

theorem loadPath_of_directory (hlook : d.look p = .ok .directory) :
    loadPath d defaultPattern p = (d.schemaNames p).mapM fun name => readSource d (p.child name) := by
  obtain ⟨htakes, henters⟩ := Disk.look_eq_directory_iff.1 hlook
  rw [loadPath, expand_defaultPattern (Disk.locate_eq_ok_iff.2 ⟨htakes, henters.leads, rfl⟩) henters.target]
  exact List.mapM_map

theorem exists_loadPath_eq_ok_iff : (∃ sources, loadPath d defaultPattern p = .ok sources) ↔ d.Loadable d.Takes p := by
  by_cases hlook : d.look p = .ok .directory
  · have henters := (Disk.look_eq_directory_iff.1 hlook).2
    have hnot : ¬d.HoldsText p := by
      rintro ⟨text, hread⟩
      rw [Disk.read, hlook] at hread
      cases hread
    rw [loadPath_of_directory hlook, exists_mapM_eq_ok_iff, Disk.Loadable, or_iff_right hnot, and_iff_right hlook]
    simp only [exists_readSource_eq_ok_iff, Disk.mem_schemaNames_iff]
    constructor
    · intro h name entry hname hentry
      have hchild : d.IsSchemaChild p name := ⟨hname, by rw [hentry]; exact Option.some_ne_none entry⟩
      obtain ⟨htakes, text, htext⟩ := (henters.holdsText_child_iff hname).1 (h name hchild)
      rw [hentry] at htext
      exact ⟨htakes, text, Option.some.inj htext⟩
    · rintro h name ⟨hname, hsome⟩
      obtain ⟨entry, hentry⟩ := Option.ne_none_iff_exists'.1 hsome
      obtain ⟨htakes, text, rfl⟩ := h name entry hname hentry
      exact (henters.holdsText_child_iff hname).2 ⟨htakes, text, hentry⟩
  · rw [loadPath_of_not_directory hlook, exists_mapM_eq_ok_iff, Disk.Loadable, or_iff_left fun h => hlook h.1]
    simp only [exists_readSource_eq_ok_iff, List.forall_mem_singleton]

variable (hentries : (d.entries.map (·.1)).Nodup)

include hentries

theorem loadsAs_of_loadPath_eq_ok {sources : List Source} (h : loadPath d defaultPattern p = .ok sources) :
    d.LoadsAs p sources := by
  by_cases hlook : d.look p = .ok .directory
  · rw [loadPath_of_directory hlook, mapM_eq_ok_iff] at h
    exact .directory hlook (Disk.pairwise_schemaNames hentries p) (fun _ => Disk.mem_schemaNames_iff)
      (h.imp fun _ _ => readSource_eq_ok_iff.1)
  · rw [loadPath_of_not_directory hlook, mapM_eq_ok_iff] at h
    obtain ⟨source, rest, hsource, hrest, rfl⟩ := List.forall₂_cons_left_iff.1 h
    obtain rfl := List.forall₂_nil_left_iff.1 hrest
    obtain ⟨text, hread, rfl⟩ := readSource_eq_ok_iff.1 hsource
    exact .file hread

theorem loadPath_eq_error_iff {e : LoadError} : loadPath d defaultPattern p = .error e ↔ d.Refuses p e := by
  by_cases hlook : d.look p = .ok .directory
  · rw [loadPath_of_directory hlook, mapM_eq_error_iff,
      exists_split_iff_of_pairwise (Disk.pairwise_schemaNames hentries p)
        (P := fun name => ∃ source, readSource d (p.child name) = .ok source)
        (Q := fun name => readSource d (p.child name) = .error e)]
    simp only [exists_readSource_eq_ok_iff, readSource_eq_error_iff, Disk.mem_schemaNames_iff]
    constructor
    · rintro ⟨name, hname, hfails, hfirst⟩
      exact .directory hlook hname hfails hfirst
    · rintro (⟨hno, -⟩ | ⟨-, hname, hfails, hfirst⟩)
      · exact absurd hlook hno
      · exact ⟨_, hname, hfails, hfirst⟩
  · have hone : [p].mapM (readSource d) = .error e ↔ readSource d p = .error e := by
      rw [List.mapM_cons]
      cases readSource d p <;> simp [Bind.bind, Except.bind, Pure.pure, Except.pure]
    rw [loadPath_of_not_directory hlook, hone, readSource_eq_error_iff]
    constructor
    · exact .file hlook
    · rintro (⟨-, hfails⟩ | ⟨hdirectory, -⟩)
      · exact hfails
      · exact absurd hdirectory hlook

theorem loadPath_of_perm (hperm : d'.entries.Perm d.entries) (hworking : d'.workingDirectory = d.workingDirectory)
    (hlimits : d'.limits = d.limits) (p : Path) : loadPath d' defaultPattern p = loadPath d defaultPattern p := by
  have hlook := Disk.look_congr (Disk.get?_of_perm hentries hperm) hworking hlimits
  have hread : readSource d' = readSource d := by
    funext q
    rw [readSource_eq, readSource_eq, Disk.read, Disk.read, hlook]
  by_cases hdirectory : d.look p = .ok .directory
  · rw [loadPath_of_directory hdirectory, loadPath_of_directory ((hlook p).trans hdirectory), hread,
      Disk.schemaNames_of_perm hentries hperm hworking]
  · rw [loadPath_of_not_directory hdirectory, loadPath_of_not_directory ((hlook p).trans_ne hdirectory), hread]

end Loading

/-! ### What loading does -/

theorem Disk.LoadsAs.unified {d : Disk} {p : Path} {sources : List Source} (h : d.LoadsAs p sources) :
    ∀ source ∈ sources, '\r' ∉ source.body.toList := by
  have hone : ∀ (q : Path) (text : List Char), '\r' ∉ (sourceOf q text).body.toList := by
    intro q text
    rw [sourceOf, Source.ofText, String.toList_ofList]
    exact not_mem_normalizeNewlines text
  cases h with
  | @file text _ => exact List.forall_mem_singleton.2 (hone p text)
  | directory _ _ _ hsources =>
    intro source hsource
    obtain ⟨name, -, text, -, rfl⟩ := exists_of_forall₂_of_mem hsources hsource
    exact hone (p.child name) text

/-- What loading paths does, in terms of the paths of files in a directory that are admitted. -/
structure LoadEffect (d : Disk) (paths : List Path) (Admits : Path → Prop) : Prop where
  succeeds : (∃ sources, loadSources d defaultPattern paths = .ok sources) ↔ ∀ p ∈ paths, d.Loadable Admits p
  loaded : ∀ sources, loadSources d defaultPattern paths = .ok sources →
    ∃ parts, List.Forall₂ d.LoadsAs paths parts ∧ sources = parts.flatten
  unified : ∀ sources, loadSources d defaultPattern paths = .ok sources → ∀ source ∈ sources, '\r' ∉ source.body.toList
  fails : ∀ e, loadSources d defaultPattern paths = .error e ↔ ∃ earlier p later, paths = earlier ++ p :: later ∧
    (∀ q ∈ earlier, d.Loadable Admits q) ∧ d.Refuses p e
  unordered : ∀ d' : Disk, d'.entries.Perm d.entries → d'.workingDirectory = d.workingDirectory →
    d'.limits = d.limits → loadSources d' defaultPattern paths = loadSources d defaultPattern paths

/-- The effect of loading paths. -/
theorem loadSources_effect {d : Disk} (hentries : (d.entries.map (·.1)).Nodup) (paths : List Path) :
    LoadEffect d paths d.Takes where
  succeeds := by
    simp only [← exists_loadPath_eq_ok_iff, ← exists_mapM_eq_ok_iff, loadSources, map_eq_ok_iff]
    exact ⟨fun ⟨_, parts, hparts, _⟩ => ⟨parts, hparts⟩, fun ⟨parts, hparts⟩ => ⟨_, parts, hparts, rfl⟩⟩
  loaded sources h := by
    obtain ⟨parts, hparts, rfl⟩ := map_eq_ok_iff.1 h
    exact ⟨parts, (mapM_eq_ok_iff.1 hparts).imp fun _ _ => loadsAs_of_loadPath_eq_ok hentries, rfl⟩
  unified sources h := by
    obtain ⟨parts, hparts, rfl⟩ := map_eq_ok_iff.1 h
    intro source hsource
    obtain ⟨part, hpart, hmem⟩ := List.mem_flatten.1 hsource
    obtain ⟨p, -, hload⟩ := exists_of_forall₂_of_mem (mapM_eq_ok_iff.1 hparts) hpart
    exact (loadsAs_of_loadPath_eq_ok hentries hload).unified source hmem
  fails e := by
    rw [loadSources, map_eq_error_iff, mapM_eq_error_iff]
    simp only [exists_loadPath_eq_ok_iff, loadPath_eq_error_iff hentries]
  unordered d' hperm hworking hlimits := by
    have hload : loadPath d' defaultPattern = loadPath d defaultPattern :=
      funext (loadPath_of_perm hentries hperm hworking hlimits)
    rw [loadSources, loadSources, hload]

/-- A disk that lists its files against the order of their names. -/
def unsortedDisk : Disk :=
  ⟨[(["b.graphql"], .file [0x42, 0x0d, 0x0a]), (["old"], .directory), (["a.graphql"], .file [0x41])], [], .unbounded⟩

theorem loadSources_effect_unsortedDisk : (unsortedDisk.entries.map (·.1)).Nodup ∧
    LoadEffect unsortedDisk [Path.ofString "old/..", Path.ofString "b.graphql"] unsortedDisk.Takes :=
  ⟨by decide, loadSources_effect (by decide) _⟩

/-! ### Paths that are too long -/

/-- A usual disk with one directory and a file in it. -/
def shallowDisk : Disk :=
  ⟨[(["a"], .directory), (["a", "x.graphql"], .file (encodeUtf8 "type A \x7b i: i32 \x7d".toList))], [], .usual⟩

/-- A path into a directory and out again some times before it leads to it. -/
def roundabout (n : Nat) : Path :=
  ⟨.relative, (List.replicate n ["a", ".."]).flatten ++ ["a"]⟩

/-- Every turn adds five bytes. -/
theorem utf8ByteSize_turns (n : Nat) {rest : List String} (hrest : rest ≠ []) :
    (Path.mk .relative ((List.replicate n ["a", ".."]).flatten ++ rest)).toString.utf8ByteSize =
      5 * n + ("/".intercalate rest).utf8ByteSize := by
  rw [Path.toString, if_neg fun h => List.append_ne_nil_of_right_ne_nil _ hrest h.2, Anchor.text, String.empty_append]
  induction n with
  | zero => rw [List.replicate_zero, List.flatten_nil, List.nil_append, Nat.mul_zero, Nat.zero_add]
  | succ n ih =>
    have hbehind : (List.replicate n ["a", ".."]).flatten ++ rest ≠ [] := List.append_ne_nil_of_right_ne_nil _ hrest
    have ha : "a".utf8ByteSize = 1 := rfl
    have hdots : "..".utf8ByteSize = 2 := rfl
    have hslash : "/".utf8ByteSize = 1 := rfl
    rw [List.replicate_succ, List.flatten_cons, List.append_assoc]
    change ("/".intercalate ("a" :: ".." :: ((List.replicate n ["a", ".."]).flatten ++ rest))).utf8ByteSize = _
    rw [String.intercalate_cons_cons, String.intercalate_cons_of_ne_nil hbehind]
    simp only [String.utf8ByteSize_append, ih, ha, hdots, hslash]
    omega

theorem utf8ByteSize_roundabout (n : Nat) : (roundabout n).toString.utf8ByteSize = 5 * n + 1 :=
  utf8ByteSize_turns n (List.cons_ne_nil _ _)

theorem utf8ByteSize_roundabout_child (n : Nat) :
    ((roundabout n).child "x.graphql").toString.utf8ByteSize = 5 * n + 11 := by
  rw [Path.child, roundabout, List.append_assoc]
  exact utf8ByteSize_turns n (List.cons_ne_nil _ _)

theorem exceeds_shallowDisk (text : String) :
    Disk.exceeds shallowDisk.limits.path text = decide (4095 < text.utf8ByteSize) :=
  rfl

theorem foldlM_enter_roundabout (n : Nat) : (roundabout n).parts.foldlM shallowDisk.enter [] = .ok ["a"] := by
  induction n with
  | zero => rfl
  | succ n ih =>
    have hturn : ["a", ".."].foldlM shallowDisk.enter [] = .ok [] := by decide
    rw [roundabout, List.replicate_succ, List.flatten_cons, List.append_assoc, List.foldlM_append, hturn]
    exact ih

theorem look_roundabout {n : Nat} (hlength : 5 * n + 1 ≤ 4095) :
    shallowDisk.look (roundabout n) = .ok .directory ∧ shallowDisk.target (roundabout n) = ["a"] := by
  have hpart : ∀ part ∈ (roundabout n).parts, part = "a" ∨ part = ".." := by
    intro part hmem
    simp only [roundabout, List.mem_append, List.mem_flatten, List.mem_replicate, List.mem_singleton] at hmem
    rcases hmem with ⟨_, ⟨-, rfl⟩, hmem⟩ | rfl
    · simpa using hmem
    · exact .inl rfl
  have htakes : shallowDisk.Takes (roundabout n) := by
    refine ⟨fun part hmem => ?_, ?_, fun part hmem hdots => ?_⟩
    · rcases hpart part hmem with rfl | rfl <;> decide
    · rw [exceeds_shallowDisk, utf8ByteSize_roundabout]
      exact decide_eq_false (Nat.not_lt.2 hlength)
    · rcases hpart part hmem with rfl | rfl
      · rfl
      · exact absurd rfl hdots
  have hlocate : shallowDisk.locate (roundabout n) = .ok ["a"] := by
    rw [Disk.locate_of_takes htakes]
    exact foldlM_enter_roundabout n
  refine ⟨?_, (Disk.locate_eq_ok_iff.1 hlocate).2.2⟩
  rw [Disk.look, hlocate]
  rfl

/-- The path of a file in a directory can be too long although the path of the directory is not. -/
theorem not_loadEffect : ¬LoadEffect shallowDisk [roundabout 818] fun _ => True := by
  intro h
  obtain ⟨hlook, htarget⟩ := look_roundabout (by decide : 5 * 818 + 1 ≤ 4095)
  have hchild : shallowDisk.IsSchemaChild (roundabout 818) "x.graphql" := by
    rw [Disk.IsSchemaChild, htarget]
    decide
  have hloadable : shallowDisk.Loadable (fun _ => True) (roundabout 818) := by
    refine .inr ⟨hlook, fun name entry _ hentry => ⟨trivial, ?_⟩⟩
    have hmem := Disk.mem_entries_of_get? (by simp) hentry
    rw [htarget] at hmem
    have hfile : name = "x.graphql" ∧ entry = .file (encodeUtf8 "type A \x7b i: i32 \x7d".toList) := by
      simpa [shallowDisk] using hmem
    exact ⟨_, hfile.2⟩
  -- So the path should be loaded, with the source of the file; but the path of the file is too long to be read.
  obtain ⟨sources, hload⟩ := h.succeeds.2 (List.forall_mem_singleton.2 hloadable)
  obtain ⟨parts, hparts, -⟩ := h.loaded sources hload
  obtain ⟨part, rest, hpart, -, rfl⟩ := List.forall₂_cons_left_iff.1 hparts
  cases hpart with
  | file hread =>
    rw [Disk.read, hlook] at hread
    cases hread
  | directory _ _ hcomplete hsources =>
    obtain ⟨source, -, text, hread, -⟩ := exists_of_forall₂_of_mem hsources.flip ((hcomplete _).2 hchild)
    obtain ⟨place, hlocate, -⟩ := Disk.read_eq_ok_iff.1 hread
    have hpath := (Disk.locate_eq_ok_iff.1 hlocate).1.path
    rw [exceeds_shallowDisk, utf8ByteSize_roundabout_child] at hpath
    exact absurd hpath (by decide)

end TableSchema.Files
