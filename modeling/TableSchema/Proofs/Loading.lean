import Mathlib.Data.List.Infix
import TableSchema.Files.Load
import TableSchema.Proofs.PathPlaces
import TableSchema.Proofs.Utf8

/-!
# Loading a directory

The default pattern selects the children of a directory whose names end in `.graphql`
(`expand_defaultPattern`), and sorting their paths sorts their names (`mergeSort_child`).  A file is loaded if it holds
a text as UTF-8 (`readSource_eq_ok_iff`).
-/

namespace TableSchema.Files

open Syntax Text

/-! ### The default pattern -/

private theorem zipWith_tails (c : Char) (cs name : List Char) :
    List.zipWith (fun first behind => (Piece.char c).admits first && behind) name (name.tails.map (· == cs)).tail ++
      [false] = name.tails.map (· == c :: cs) := by
  induction name with
  | nil => rfl
  | cons first name ih =>
    obtain ⟨ends, hends⟩ : ∃ ends, name.tails = name :: ends := by cases name <;> exact ⟨_, rfl⟩
    have hhead : (first :: name == c :: cs) = ((Piece.char c).admits first && name == cs) := by
      rw [List.cons_beq_cons, Piece.admits, Bool.beq_comm (a := first)]
    rw [List.tails_cons, List.map_cons, List.map_cons, List.tail_cons, hhead, ← ih, hends]
    rfl

/-- Characters match the ends of a name that are equal to them. -/
theorem matchEnds_char (cs name : List Char) : matchEnds (cs.map .char) name = name.tails.map (· == cs) := by
  induction cs with
  | nil =>
    induction name with
    | nil => rfl
    | cons c name ih => simpa [matchEnds] using ih
  | cons c cs ih =>
    rw [List.map_cons, matchEnds, ih, zipWith_tails]
    simp

theorem headD_orEnds (bs : List Bool) : (orEnds bs).headD false = bs.any id := by
  induction bs with
  | nil => rfl
  | cons b bs ih =>
    rw [orEnds, List.any_cons, ← ih]
    rfl

/-- A star and characters behind it match the names that end in the characters. -/
theorem matchPieces_star (cs name : List Char) :
    matchPieces (.star :: cs.map .char) name = true ↔ cs <:+ name := by
  rw [matchPieces, matchEnds, headD_orEnds, matchEnds_char, List.any_map, List.any_eq_true]
  simp [List.mem_tails]

theorem ofString_defaultPattern :
    Pattern.ofString defaultPattern = .ok ⟨[.matching (.star :: ".graphql".toList.map .char)], false⟩ := by
  decide +kernel

/-- Whether a name is one that the default pattern selects. -/
def isSchemaFile (name : String) : Bool :=
  ".graphql".toList.isSuffixOf name.toList

theorem matchPieces_defaultPattern (name : String) :
    matchPieces (.star :: ".graphql".toList.map .char) name.toList = isSchemaFile name := by
  rw [Bool.eq_iff_iff, matchPieces_star, isSchemaFile, List.isSuffixOf_iff_suffix]

private theorem append_singleton_lt_iff (parts : List String) (name name' : String) :
    parts ++ [name'] < parts ++ [name] ↔ name' < name := by
  induction parts with
  | nil =>
    rw [List.nil_append, List.nil_append, List.cons_lt_cons_iff]
    exact or_iff_left fun h => List.not_lt_nil [] h.2
  | cons part parts ih =>
    rw [List.cons_append, List.cons_append, List.cons_lt_cons_iff, ← ih]
    exact ⟨fun h => h.elim (fun h => absurd h (String.lt_irrefl part)) (·.2), fun h => .inr ⟨rfl, h⟩⟩

/-- Paths of one directory are ordered as their names. -/
theorem le_child (p : Path) (name name' : String) : (p.child name).le (p.child name') = decide (name ≤ name') := by
  rw [Path.le, ← decide_not, decide_eq_decide, Path.child, Path.child, append_singleton_lt_iff, String.not_lt]

theorem mergeSort_child (p : Path) (names : List String) :
    (names.map p.child).mergeSort Path.le = (names.mergeSort fun a b => decide (a ≤ b)).map p.child := by
  rw [List.map_mergeSort]
  intro a _ b _
  exact (le_child p a b).symm

/-- Different names are strictly increasing when they are sorted. -/
theorem pairwise_mergeSort_of_nodup {names : List String} (h : names.Nodup) :
    (names.mergeSort fun a b => decide (a ≤ b)).Pairwise (· < ·) := by
  have htrans : ∀ a b c : String, decide (a ≤ b) = true → decide (b ≤ c) = true → decide (a ≤ c) = true :=
    fun a b c hab hbc => decide_eq_true (String.le_trans (of_decide_eq_true hab) (of_decide_eq_true hbc))
  have htotal : ∀ a b : String, (decide (a ≤ b) || decide (b ≤ a)) = true :=
    fun a b => by rw [← Bool.decide_or, decide_eq_true_eq]; exact String.le_total a b
  have hne : (names.mergeSort fun a b => decide (a ≤ b)).Pairwise (· ≠ ·) :=
    (List.mergeSort_perm names _).nodup_iff.2 h
  refine ((List.pairwise_mergeSort htrans htotal names).and hne).imp ?_
  intro a b hab
  by_contra hlt
  exact hab.2 (String.le_antisymm (of_decide_eq_true hab.1) (String.not_lt.1 hlt))

/-- In a sorted list an item stands behind the smaller ones. -/
theorem exists_split_iff_of_pairwise {names : List String} (hnames : names.Pairwise (· < ·)) {P Q : String → Prop} :
    (∃ earlier a later, names = earlier ++ a :: later ∧ (∀ x ∈ earlier, P x) ∧ Q a) ↔
      ∃ a ∈ names, Q a ∧ ∀ x < a, x ∈ names → P x := by
  constructor
  · rintro ⟨earlier, a, later, rfl, hearlier, ha⟩
    refine ⟨a, List.mem_append_right _ List.mem_cons_self, ha, fun x hx hmem => ?_⟩
    rcases List.mem_append.1 hmem with hmem | hmem
    · exact hearlier x hmem
    · rcases List.mem_cons.1 hmem with rfl | hmem
      · exact absurd hx (String.lt_irrefl x)
      · have hlater := List.rel_of_pairwise_cons (List.pairwise_append.1 hnames).2.1 hmem
        exact absurd (String.lt_trans hx hlater) (String.lt_irrefl x)
  · rintro ⟨a, ha, hQ, hP⟩
    obtain ⟨earlier, later, rfl⟩ := List.append_of_mem ha
    refine ⟨earlier, a, later, rfl, fun x hx => ?_, hQ⟩
    exact hP x ((List.pairwise_append.1 hnames).2.2 x hx a List.mem_cons_self) (List.mem_append_left _ hx)

/-- A directory stands for its children whose names end in `.graphql`, sorted by name. -/
theorem expand_defaultPattern {d : Disk} {p : Path} {place : Place} (hlocate : d.locate p = .ok place)
    (hplace : d.get? place = some .directory) :
    expand d defaultPattern p = .ok (((((d.children place).map (·.1)).filter isSchemaFile).mergeSort
      fun a b => decide (a ≤ b)).map p.child) := by
  have hdirectory : d.isDirectory p = true := by simp [Disk.isDirectory, Disk.look, hlocate, hplace]
  have hselect : Pattern.selectParts d false [.matching (.star :: ".graphql".toList.map .char)] p =
      (((d.children place).map (·.1)).filter isSchemaFile).map p.child := by
    rw [Pattern.selectParts, Pattern.childrenOf, hlocate]
    simp only [Pattern.selectParts, matchPieces_defaultPattern, List.isEmpty_nil, Bool.not_true, Bool.or_false,
      Bool.not_false, Bool.true_or, Bool.true_and, ← List.map_eq_flatMap, List.filter_map, List.map_map]
    rfl
  rw [expand, if_pos hdirectory, ofString_defaultPattern]
  dsimp only
  rw [Pattern.select, hselect, mergeSort_child]

/-! ### Reading a file -/

section Reading

variable {d : Disk} {p : Path}

/-- The source that the file at a path is loaded as if it holds a text. -/
def sourceOf (p : Path) (text : List Char) : Source :=
  .ofText p.toString (String.ofList (normalizeNewlines text))

theorem readSource_eq (d : Disk) (p : Path) : readSource d p = match d.read p with
    | .error e => .error (.file e)
    | .ok bytes => match decodeUtf8 bytes with
      | .error e => .error (.encoding e)
      | .ok text => .ok (sourceOf p text) := by
  unfold readSource readText
  cases d.read p with
  | error e => rfl
  | ok bytes =>
    change (Source.ofText p.toString ·) <$> (textOf bytes).mapError LoadError.encoding = _
    unfold textOf
    dsimp only
    cases decodeUtf8 bytes <;> rfl

/-- A file is loaded as a text with its line endings unified if it holds this text as UTF-8. -/
theorem readSource_eq_ok_iff {source : Source} :
    readSource d p = .ok source ↔ ∃ text, d.read p = .ok (encodeUtf8 text) ∧ sourceOf p text = source := by
  rw [readSource_eq]
  constructor
  · intro h
    split at h
    · cases h
    · rename_i bytes hread
      split at h
      · cases h
      · rename_i text hdecode
        cases h
        exact ⟨text, decodeUtf8_eq_ok_iff.1 hdecode ▸ hread, rfl⟩
  · rintro ⟨text, hread, rfl⟩
    rw [hread]
    dsimp only
    rw [decodeUtf8_encodeUtf8]

/-- Reading the file at a path fails: there is none, or its bytes are no UTF-8. -/
inductive Disk.ReadFails (d : Disk) (p : Path) : LoadError → Prop
  | file {e : FileError} (hread : d.read p = .error e) : d.ReadFails p (.file e)
  | encoding {bytes : List UInt8} {e : Utf8Error} (hread : d.read p = .ok bytes)
    (hdecode : decodeUtf8 bytes = .error e) : d.ReadFails p (.encoding e)

theorem readSource_eq_error_iff {e : LoadError} : readSource d p = .error e ↔ d.ReadFails p e := by
  rw [readSource_eq]
  constructor
  · intro h
    split at h
    · rename_i hread
      cases h
      exact .file hread
    · rename_i bytes hread
      split at h
      · rename_i hdecode
        cases h
        exact .encoding hread hdecode
      · cases h
  · rintro (⟨hread⟩ | ⟨hread, hdecode⟩)
    · rw [hread]
    · rw [hread]
      dsimp only
      rw [hdecode]

end Reading

end TableSchema.Files
