import Mathlib.Data.List.Infix
import TableSchema.Files.Disk
import TableSchema.Proofs.FirstFinding

/-!
# Where paths lead

A path is walked part by part, and a double dot goes back up.  Main statements: a path leads to its place exactly if
the operating system takes the path and every place on the way is a directory (`locate_eq_ok_iff`); if it does not lead
there although no file stands in its way, something is missing (`locate_eq_notFound`).
-/

namespace TableSchema.Files

/-! ### Walking -/

/-- The place to which a part leads from a directory. -/
def stepFrom (place : Place) (part : String) : Place :=
  if part = ".." then place.dropLast else place ++ [part]

/-- The place to which parts lead from a directory, one after the other. -/
def walk (place : Place) (parts : List String) : Place :=
  parts.foldl stepFrom place

theorem walk_concat {name : String} (hname : name ≠ "..") (place : Place) (parts : List String) :
    walk place (parts ++ [name]) = walk place parts ++ [name] := by
  rw [walk, List.foldl_append, List.foldl_cons, List.foldl_nil, stepFrom, if_neg hname, walk]

/-- Parts that only go down are appended. -/
theorem walk_eq_append {parts : List String} (hparts : ".." ∉ parts) (place : Place) :
    walk place parts = place ++ parts := by
  induction parts generalizing place with
  | nil => exact (List.append_nil place).symm
  | cons part parts ih =>
    rw [List.mem_cons, not_or] at hparts
    rw [walk, List.foldl_cons, ← walk, ih hparts.2, stepFrom, if_neg (Ne.symm hparts.1), List.append_assoc,
      List.singleton_append]

theorem prefix_dropLast {α : Type} {xs above : List α} (habove : above <+: xs) (hne : above ≠ xs) :
    above <+: xs.dropLast := by
  obtain ⟨rest, rfl⟩ := habove
  have hrest : rest ≠ [] := fun h => hne (by rw [h, List.append_nil])
  rw [List.dropLast_append_of_ne_nil hrest]
  exact List.prefix_append above rest.dropLast

/-- The parts before some part of a list are none or the first one with parts before some part of the others. -/
theorem forall_proper_prefix_cons_iff {part : String} {parts : List String} {P : List String → Prop} :
    (∀ above, above <+: part :: parts → above ≠ part :: parts → P above) ↔
      P [] ∧ ∀ above, above <+: parts → above ≠ parts → P (part :: above) := by
  constructor
  · intro h
    refine ⟨h [] List.nil_prefix (List.cons_ne_nil part parts).symm, fun above habove hne => ?_⟩
    exact h _ (List.cons_prefix_cons.2 ⟨rfl, habove⟩) fun heq => hne (List.cons.inj heq).2
  · rintro ⟨hnil, hcons⟩ above habove hne
    rcases List.prefix_cons_iff.1 habove with rfl | ⟨rest, rfl, hrest⟩
    · exact hnil
    · exact hcons rest hrest fun heq => hne (heq ▸ rfl)

/-! ### How long paths are -/

theorem utf8ByteSize_intercalate_le {above parts : List String} (habove : above <+: parts) :
    ("/".intercalate above).utf8ByteSize ≤ ("/".intercalate parts).utf8ByteSize := by
  obtain ⟨rest, rfl⟩ := habove
  induction above with
  | nil => exact Nat.zero_le _
  | cons part above ih =>
    by_cases hbehind : above ++ rest = []
    · obtain ⟨rfl, rfl⟩ := List.append_eq_nil_iff.1 hbehind
      exact Nat.le_refl _
    · rw [List.cons_append, String.intercalate_cons_of_ne_nil hbehind, String.utf8ByteSize_append,
        String.utf8ByteSize_append]
      by_cases habove : above = []
      · rw [habove, String.intercalate_singleton]
        omega
      · rw [String.intercalate_cons_of_ne_nil habove, String.utf8ByteSize_append, String.utf8ByteSize_append]
        omega

/-- A path above another one is written with no more bytes, if parts are not empty. -/
theorem Path.utf8ByteSize_toString_le {p q : Path} (hanchor : p.anchor = q.anchor) (hbegins : p.parts <+: q.parts)
    (hparts : "" ∉ q.parts) : p.toString.utf8ByteSize ≤ q.toString.utf8ByteSize := by
  have hle := utf8ByteSize_intercalate_le hbegins
  unfold Path.toString
  rw [hanchor]
  by_cases hdot : q.anchor = .relative ∧ q.parts = []
  · rw [if_pos hdot, if_pos ⟨hdot.1, List.prefix_nil.1 (hdot.2 ▸ hbegins)⟩]
  · rw [if_neg hdot, String.utf8ByteSize_append]
    split
    · rename_i hdot'
      obtain ⟨first, rest, hcons⟩ := List.exists_cons_of_ne_nil fun hnil => hdot ⟨hdot'.1, hnil⟩
      have hfirst : first ≠ "" := fun heq => hparts (hcons ▸ heq ▸ List.mem_cons_self)
      have hsize := Nat.pos_of_ne_zero (mt String.utf8ByteSize_eq_zero_iff.1 hfirst)
      have hstart : [first] <+: first :: rest := List.cons_prefix_cons.2 ⟨rfl, List.nil_prefix⟩
      have hone := utf8ByteSize_intercalate_le hstart
      rw [String.intercalate_singleton, ← hcons] at hone
      exact Nat.le_add_left_of_le (Nat.le_trans hsize hone)
    · rw [String.utf8ByteSize_append]
      omega

theorem Path.not_mem_parts_ofString (text : String) : "" ∉ (Path.ofString text).parts := by
  intro h
  obtain ⟨piece, hpiece, hempty⟩ := List.mem_map.1 h
  have hne := (List.mem_filter.1 hpiece).2
  rw [String.ofList_eq_empty_iff] at hempty
  simp [hempty] at hne

namespace Disk

/-! ### Paths on a disk -/

/-- The place at which a path starts. -/
def start (d : Disk) (p : Path) : Place :=
  if p.anchor = .relative then d.workingDirectory else []

/-- The place to which a path leads. -/
def target (d : Disk) (p : Path) : Place :=
  walk (d.start p) p.parts

/-- The operating system takes a path: no null character is in it, and neither a part nor the whole is too long. -/
structure Takes (d : Disk) (p : Path) : Prop where
  no_null : ∀ part ∈ p.parts, '\x00' ∉ part.toList
  path : exceeds d.limits.path p.toString = false
  parts : ∀ part ∈ p.parts, part ≠ ".." → exceeds d.limits.name part = false

/-- Every place on the way to the one to which a path leads is a directory. -/
def Leads (d : Disk) (p : Path) : Prop :=
  ∀ above, above <+: p.parts → above ≠ p.parts → d.get? (walk (d.start p) above) = some .directory

/-- Every place along a path is a directory, also the one to which it leads. -/
def Enters (d : Disk) (p : Path) : Prop :=
  ∀ above, above <+: p.parts → d.get? (walk (d.start p) above) = some .directory

/-- No file stands along a path. -/
def Clear (d : Disk) (p : Path) : Prop :=
  ∀ above, above <+: p.parts → ∀ bytes, d.get? (walk (d.start p) above) ≠ some (.file bytes)

variable {d : Disk} {p : Path}

theorem Takes.of_unbounded (hlimits : d.limits = .unbounded) (hnull : ∀ part ∈ p.parts, '\x00' ∉ part.toList) :
    d.Takes p := by
  refine ⟨hnull, ?_, fun part _ _ => ?_⟩
  all_goals
    rw [hlimits]
    rfl

/-- Whether a path is taken depends on the limits alone. -/
theorem takes_congr {after : Disk} (hlimits : after.limits = d.limits) : after.Takes p ↔ d.Takes p := by
  constructor
  · rintro ⟨hnull, hpath, hparts⟩
    rw [hlimits] at hpath hparts
    exact ⟨hnull, hpath, hparts⟩
  · rintro ⟨hnull, hpath, hparts⟩
    rw [← hlimits] at hpath hparts
    exact ⟨hnull, hpath, hparts⟩

/-- Where a path is taken, so are the paths above it. -/
theorem Takes.of_prefix (hparts : "" ∉ p.parts) (h : d.Takes p) {above : List String} (habove : above <+: p.parts) :
    d.Takes { p with parts := above } := by
  refine ⟨fun part hpart => h.no_null part (habove.subset hpart), ?_,
    fun part hpart => h.parts part (habove.subset hpart)⟩
  have hpath := h.path
  unfold exceeds at hpath ⊢
  cases hlimit : d.limits.path with
  | none => rfl
  | some limit =>
    have hle := Path.utf8ByteSize_toString_le (p := { p with parts := above }) (q := p) rfl habove hparts
    rw [hlimit] at hpath
    simp only [Option.any_some, decide_eq_false_iff_not, Nat.not_lt] at hpath ⊢
    exact Nat.le_trans hle hpath

theorem Enters.leads (h : d.Enters p) : d.Leads p :=
  fun above habove _ => h above habove

theorem Enters.target (h : d.Enters p) : d.get? (d.target p) = some .directory :=
  h p.parts List.prefix_rfl

theorem Leads.enters (h : d.Leads p) (htarget : d.get? (d.target p) = some .directory) : d.Enters p := by
  intro above habove
  by_cases hlast : above = p.parts
  · rw [hlast]
    exact htarget
  · exact h above habove hlast

theorem Enters.clear (h : d.Enters p) : d.Clear p := by
  intro above habove bytes hfile
  rw [h above habove] at hfile
  cases hfile

theorem target_child {name : String} (hname : name ≠ "..") : d.target (p.child name) = d.target p ++ [name] :=
  walk_concat hname (d.start p) p.parts

theorem Enters.leads_child {name : String} (h : d.Enters p) : d.Leads (p.child name) := by
  intro above habove hne
  have hup := prefix_dropLast habove hne
  rw [Path.child, List.dropLast_concat] at hup
  exact h above hup

/-! ### Where a path leads -/

theorem enter_eq_ok_iff {place place' : Place} {part : String} : d.enter place part = .ok place' ↔
    d.get? place = some .directory ∧ (part ≠ ".." → exceeds d.limits.name part = false) ∧
      stepFrom place part = place' := by
  unfold enter stepFrom
  split
  · simp [*]
  · simp [*]
  · rename_i hplace
    by_cases hpart : part = ".."
    · simp [hplace, hpart]
    · by_cases hname : exceeds d.limits.name part = true
      · simp [hplace, hpart, hname]
      · simp [hplace, hpart, hname]

theorem foldlM_enter_eq_ok_iff {parts : List String} {base place : Place} :
    parts.foldlM d.enter base = .ok place ↔
      (∀ part ∈ parts, part ≠ ".." → exceeds d.limits.name part = false) ∧
      (∀ above, above <+: parts → above ≠ parts → d.get? (walk base above) = some .directory) ∧
      walk base parts = place := by
  induction parts generalizing base with
  | nil => simp [pure, Except.pure, walk]
  | cons part parts ih =>
    rw [List.foldlM_cons, bind_eq_ok_iff, forall_proper_prefix_cons_iff, List.forall_mem_cons]
    constructor
    · rintro ⟨next, henter, hrest⟩
      obtain ⟨hbase, hpart, rfl⟩ := enter_eq_ok_iff.1 henter
      obtain ⟨hparts, habove, hplace⟩ := ih.1 hrest
      exact ⟨⟨hpart, hparts⟩, ⟨hbase, habove⟩, hplace⟩
    · rintro ⟨⟨hpart, hparts⟩, ⟨hbase, habove⟩, hplace⟩
      exact ⟨stepFrom base part, enter_eq_ok_iff.2 ⟨hbase, hpart, rfl⟩, ih.2 ⟨hparts, habove, hplace⟩⟩

theorem locate_of_takes (h : d.Takes p) : d.locate p = p.parts.foldlM d.enter (d.start p) := by
  have hnull : p.parts.any (·.contains '\x00') = false := by
    rw [List.any_eq_false]
    intro part hpart
    rw [String.contains_char_eq]
    simpa using h.no_null part hpart
  rw [locate, hnull, h.path]
  rfl

/-- A path with a null character is refused. -/
theorem locate_eq_nullCharacter {part : String} (hpart : part ∈ p.parts) (hnull : '\x00' ∈ part.toList) :
    d.locate p = .error .nullCharacter := by
  have hany : p.parts.any (·.contains '\x00') = true :=
    List.any_eq_true.2 ⟨part, hpart, by rw [String.contains_char_eq]; exact decide_eq_true hnull⟩
  rw [locate, hany]
  rfl

/-- A path leads to its place exactly if the operating system takes it and everything on the way is a directory. -/
theorem locate_eq_ok_iff {place : Place} : d.locate p = .ok place ↔ d.Takes p ∧ d.Leads p ∧ d.target p = place := by
  constructor
  · intro h
    have hnull : ∀ part ∈ p.parts, '\x00' ∉ part.toList := by
      intro part hpart hmem
      rw [locate_eq_nullCharacter hpart hmem] at h
      cases h
    unfold locate at h
    split at h
    · cases h
    · split at h
      · cases h
      · rename_i hpath
        obtain ⟨hparts, hleads, hplace⟩ := foldlM_enter_eq_ok_iff.1 h
        exact ⟨⟨hnull, by simpa using hpath, hparts⟩, hleads, hplace⟩
  · rintro ⟨htakes, hleads, hplace⟩
    rw [locate_of_takes htakes]
    exact foldlM_enter_eq_ok_iff.2 ⟨htakes.parts, hleads, hplace⟩

theorem foldlM_enter_of_clear {parts : List String} {base : Place}
    (hparts : ∀ part ∈ parts, part ≠ ".." → exceeds d.limits.name part = false)
    (hclear : ∀ above, above <+: parts → ∀ bytes, d.get? (walk base above) ≠ some (.file bytes)) :
    parts.foldlM d.enter base = .ok (walk base parts) ∨ parts.foldlM d.enter base = .error .notFound := by
  induction parts generalizing base with
  | nil => exact .inl rfl
  | cons part parts ih =>
    rw [List.foldlM_cons]
    rw [List.forall_mem_cons] at hparts
    cases hbase : d.get? base with
    | none =>
      right
      simp [enter, hbase, bind, Except.bind]
    | some entry =>
      cases entry with
      | file bytes => exact absurd hbase (hclear [] List.nil_prefix bytes)
      | directory =>
        rw [enter_eq_ok_iff.2 ⟨hbase, hparts.1, rfl⟩]
        exact ih hparts.2 fun above habove => hclear (part :: above) (List.cons_prefix_cons.2 ⟨rfl, habove⟩)

/-- If no file stands along a path and not everything on the way is a directory, something is missing. -/
theorem locate_eq_notFound (htakes : d.Takes p) (hclear : d.Clear p) (hleads : ¬d.Leads p) :
    d.locate p = .error .notFound := by
  rw [locate_of_takes htakes]
  refine (foldlM_enter_of_clear htakes.parts hclear).resolve_left fun h => hleads ?_
  exact (foldlM_enter_eq_ok_iff.1 h).2.1

/-! ### What is found at a path -/

/-- A directory is found at a path exactly if the operating system takes the path and everything along it is one. -/
theorem look_eq_directory_iff : d.look p = .ok .directory ↔ d.Takes p ∧ d.Enters p := by
  have hlook : d.look p = .ok .directory ↔ ∃ place, d.locate p = .ok place ∧ d.get? place = some .directory := by
    unfold look
    cases hlocate : d.locate p with
    | error fault => simp
    | ok place => cases hplace : d.get? place <;> simp [hplace]
  rw [hlook]
  constructor
  · rintro ⟨place, hlocate, hplace⟩
    obtain ⟨htakes, hleads, rfl⟩ := locate_eq_ok_iff.1 hlocate
    exact ⟨htakes, hleads.enters hplace⟩
  · rintro ⟨htakes, henters⟩
    exact ⟨d.target p, locate_eq_ok_iff.2 ⟨htakes, henters.leads, rfl⟩, henters.target⟩

theorem read_eq_ok_iff {bytes : List UInt8} :
    d.read p = .ok bytes ↔ ∃ place, d.locate p = .ok place ∧ d.get? place = some (.file bytes) := by
  unfold read look
  cases hlocate : d.locate p with
  | error fault => simp
  | ok place =>
    cases hplace : d.get? place with
    | none => simp [hplace]
    | some entry => cases entry <;> simp [hplace]

end Disk

end TableSchema.Files
