import TableSchema.Proofs.Marks
import TableSchema.Proofs.Resolution

/-!
# The first directive of a name

Every look-up among the directives of a site takes the first hit.  There are two of them: by the kind of a mark among
directives that were read (`firstOf`), and by a name among directives as they are written (`firstNamed`).

* (agreement) where all directives can be read, both find the same directive at the same position, and the mark is what
  reading it gives (`lookups_agree`);
* (what counts) marks with the same first ones of each kind give the same column, tags and indexing, so that the
  first directive of each name is all that counts: later ones and the order of names can change freely
  (`only_first_directives_count`).
-/

namespace TableSchema

open Syntax

/-! ### Marks and the directives that they were read from -/

section Lookup

variable {site : Site} {directives directives' : List Directive} {marks marks' : List Marked}

/-- A mark has a kind exactly if its directive has the name. -/
private theorem kind_eq_iff_name_eq {d : Directive} {m : Mark} (h : d.Says m) (kind : MarkKind) :
    m.kind = kind ↔ d.name.text = kind.name := by
  constructor
  · rintro rfl
    exact h.name
  · intro hname
    exact MarkKind.name_injective (h.name.symm.trans hname)

theorem map_directive_firstOf (h : readMarks site directives = .ok marks) (kind : MarkKind) :
    (firstOf kind marks).map (·.directive) = firstNamed kind.name directives := by
  have hread := readMarks_eq_ok_iff.1 h
  clear h
  induction hread with
  | nil => rfl
  | @cons d a directives marks hd _ ih =>
    obtain ⟨hdirective, hsaid, -⟩ := hd
    have hiff := kind_eq_iff_name_eq hsaid kind
    unfold firstOf firstNamed at ih ⊢
    by_cases hkind : a.mark.kind = kind
    · simp [hkind, hiff.1 hkind, hdirective]
    · have hname : d.name.text ≠ kind.name := mt hiff.2 hkind
      simpa [hkind, hname] using ih

/-- Both look-ups stop at the same position. -/
theorem findIdx?_marks_eq (h : readMarks site directives = .ok marks) (kind : MarkKind) :
    marks.findIdx? (·.mark.kind = kind) = directives.findIdx? (·.name.text = kind.name) := by
  have hread := readMarks_eq_ok_iff.1 h
  clear h
  induction hread with
  | nil => rfl
  | @cons d a directives marks hd _ ih =>
    obtain ⟨-, hsaid, -⟩ := hd
    have hiff := kind_eq_iff_name_eq hsaid kind
    rw [List.findIdx?_cons, List.findIdx?_cons, ih]
    simp only [hiff]

theorem readMark_of_firstOf (h : readMarks site directives = .ok marks) {kind : MarkKind} {a : Marked}
    (ha : firstOf kind marks = some a) : readMark site a.directive = .ok a := by
  obtain ⟨d, -, rfl, hsaid, hlegal⟩ :=
    exists_of_forall₂_of_mem (readMarks_eq_ok_iff.1 h) (List.mem_of_find?_eq_some ha)
  exact readMark_eq_ok_iff.2 ⟨rfl, hsaid, hlegal⟩

/-- The first mark of a kind comes from reading the first directive of its name. -/
theorem firstOf_eq_bind (h : readMarks site directives = .ok marks) (kind : MarkKind) :
    firstOf kind marks = (firstNamed kind.name directives).bind fun d => (readMark site d).toOption := by
  rw [← map_directive_firstOf h kind]
  cases ha : firstOf kind marks with
  | none => rfl
  | some a =>
    rw [Option.map_some, Option.bind_some, readMark_of_firstOf h ha]
    rfl

/-- Directives with the same first ones of each name have marks with the same first ones of each kind. -/
theorem firstOf_congr (h : readMarks site directives = .ok marks) (h' : readMarks site directives' = .ok marks')
    (hfirst : ∀ name, firstNamed name directives' = firstNamed name directives) (kind : MarkKind) :
    firstOf kind marks' = firstOf kind marks := by
  rw [firstOf_eq_bind h', firstOf_eq_bind h, hfirst]

end Lookup

/-- The first directives of each name are found alike among the marks and among the directives as they are written, and
a column is unique exactly if the check of references finds its field to be so. -/
theorem lookups_agree :
    (∀ site directives marks, readMarks site directives = .ok marks → ∀ kind,
      ((firstOf kind marks).isSome ↔ (firstNamed kind.name directives).isSome) ∧
        (∀ a, firstOf kind marks = some a →
          firstNamed kind.name directives = some a.directive ∧ kind.read a.directive = .ok a.mark) ∧
        marks.findIdx? (·.mark.kind = kind) = directives.findIdx? (·.name.text = kind.name)) ∧
      ∀ catalog table field column, resolveColumn catalog table field = .ok column →
        (column.unique = true ↔ (firstNamed MarkKind.unique.name field.directives).isSome) := by
  constructor
  · intro site directives marks h kind
    have hmap := map_directive_firstOf h kind
    refine ⟨?_, fun a ha => ⟨?_, ?_⟩, findIdx?_marks_eq h kind⟩
    · rw [← hmap, Option.isSome_map]
    · rw [← hmap, ha, Option.map_some]
    · have hkind : a.mark.kind = kind := by simpa using List.find?_some ha
      obtain ⟨-, hsaid, -⟩ := readMark_eq_ok_iff.1 (readMark_of_firstOf h ha)
      exact MarkKind.read_eq_ok_iff.2 ⟨hkind, hsaid.arguments⟩
  · intro catalog table field column h
    obtain ⟨marks, _, _, _, hmarks, -, -, rfl⟩ := resolveColumn_eq_ok_iff.1 h
    rw [← hasKind_eq_isSome_firstNamed hmarks]

/-- The second of two directives is found by neither look-up. -/
theorem lookups_agree_repeated :
    ∃ (field : FieldDeclaration) (localized unique again : Directive) (marks : List Marked) (column : Column),
      field.directives = [localized, unique, again] ∧ readMarks .field field.directives = .ok marks ∧
        firstOf .unique marks = some ⟨unique, .unique⟩ ∧
        firstNamed MarkKind.unique.name field.directives = some unique ∧
        resolveColumn .empty "T" field = .ok column ∧ column.unique = true := by
  let localized : Directive := ⟨7, ⟨8, "localized"⟩, []⟩
  let unique : Directive := ⟨18, ⟨19, "unique"⟩, []⟩
  let again : Directive := ⟨26, ⟨27, "unique"⟩, []⟩
  let field : FieldDeclaration := ⟨0, none, ⟨0, "x"⟩, [], .named 3 "string", [localized, unique, again]⟩
  let marks : List Marked := [⟨localized, .localized⟩, ⟨unique, .unique⟩, ⟨again, .unique⟩]
  let column : Column := ⟨some "x", none, false, .scalar .string, true, true, none, none, none⟩
  have hmarks : readMarks .field field.directives = .ok marks := by decide
  have hfirst : firstOf .unique marks = some ⟨unique, .unique⟩ := by decide
  have hcolumn : resolveColumn .empty "T" field = .ok column := by decide
  obtain ⟨-, hagree, -⟩ := lookups_agree.1 .field field.directives marks hmarks .unique
  have hraw := (hagree _ hfirst).1
  refine ⟨field, localized, unique, again, marks, column, rfl, hmarks, hfirst, hraw, hcolumn, ?_⟩
  exact (lookups_agree.2 .empty "T" field column hcolumn).2 (Option.isSome_of_eq_some hraw)

/-! ### What the first marks determine -/

section Congruence

variable {marks marks' : List Marked}

/-- A look-up that picks from marks of one kind sees the first of them only. -/
private theorem findSome?_eq_bind_firstOf {β : Type} {kind : MarkKind} {pick : Marked → Option β}
    (hpick : ∀ a, (pick a).isSome ↔ a.mark.kind = kind) (marks : List Marked) :
    marks.findSome? pick = (firstOf kind marks).bind pick := by
  induction marks with
  | nil => rfl
  | cons a marks ih =>
    unfold firstOf at ih ⊢
    rw [List.findSome?_cons]
    by_cases hkind : a.mark.kind = kind
    · obtain ⟨b, hb⟩ := Option.isSome_iff_exists.1 ((hpick a).2 hkind)
      rw [List.find?_cons_of_pos (by simpa using hkind), hb, Option.bind_some, hb]
    · have hnone : pick a = none := by simpa using mt (hpick a).1 hkind
      rw [List.find?_cons_of_neg (by simpa using hkind), hnone]
      exact ih

private theorem findSome?_congr_firstOf {β : Type} {kind : MarkKind} (h : firstOf kind marks' = firstOf kind marks)
    {pick : Marked → Option β} (hpick : ∀ a, (pick a).isSome ↔ a.mark.kind = kind) :
    marks'.findSome? pick = marks.findSome? pick := by
  rw [findSome?_eq_bind_firstOf hpick, findSome?_eq_bind_firstOf hpick, h]

variable (h : ∀ kind, firstOf kind marks' = firstOf kind marks)

include h

theorem hasKind_congr (kind : MarkKind) : hasKind kind marks' = hasKind kind marks := by
  rw [hasKind, hasKind, h]

theorem firstRef_congr : firstRef marks' = firstRef marks := by
  refine findSome?_congr_firstOf (h .ref) fun ⟨d, m⟩ => ?_
  cases m <;> simp [Mark.kind]

theorem firstFile_congr : firstFile marks' = firstFile marks := by
  refine findSome?_congr_firstOf (h .file) fun ⟨d, m⟩ => ?_
  cases m <;> simp [Mark.kind]

theorem firstFiles_congr : firstFiles marks' = firstFiles marks := by
  refine findSome?_congr_firstOf (h .files) fun ⟨d, m⟩ => ?_
  cases m <;> simp [Mark.kind]

theorem firstIndexing_congr : firstIndexing marks' = firstIndexing marks := by
  refine findSome?_congr_firstOf (h .indexing) fun ⟨d, m⟩ => ?_
  cases m <;> simp [Mark.kind]

theorem firstTags_congr : firstTags marks' = firstTags marks := by
  refine congrArg (Option.getD · []) (findSome?_congr_firstOf (h .tags) fun ⟨d, m⟩ => ?_)
  cases m <;> simp [Mark.kind]

theorem applyRef_congr (catalog : Catalog) (field : FieldDeclaration) (directives : List Directive)
    (c : Classification) :
    applyRef catalog { field with directives := directives } marks' c = applyRef catalog field marks c := by
  unfold applyRef
  rw [firstRef_congr h]

end Congruence

/-! ### What the first directives determine -/

section Firsts

variable {directives' : List Directive}

theorem resolveColumn_congr {catalog : Catalog} {table : String} {field : FieldDeclaration}
    (hvalid : ∀ d ∈ field.directives, d.WellFormed .field) (hvalid' : ∀ d ∈ directives', d.WellFormed .field)
    (hfirst : ∀ name, firstNamed name directives' = firstNamed name field.directives) :
    resolveColumn catalog table { field with directives := directives' } = resolveColumn catalog table field := by
  obtain ⟨marks, hmarks⟩ := exists_readMarks_eq_ok_iff.2 hvalid
  obtain ⟨marks', hmarks'⟩ := exists_readMarks_eq_ok_iff.2 hvalid'
  have h := firstOf_congr hmarks hmarks' hfirst
  unfold resolveColumn
  rw [hmarks, hmarks']
  show ((classify catalog table field.type).mapError Fault.problem >>= fun c => _) =
    ((classify catalog table field.type).mapError Fault.problem >>= fun c => _)
  congr 1
  funext c
  rw [applyRef_congr h, hasKind_congr h, hasKind_congr h, firstFile_congr h, firstFiles_congr h]

theorem wellFormed_of_resolveColumn {catalog : Catalog} {table : String} {field : FieldDeclaration} {column : Column}
    (h : resolveColumn catalog table field = .ok column) : ∀ d ∈ field.directives, d.WellFormed .field := by
  obtain ⟨marks, _, _, _, hmarks, -⟩ := resolveColumn_eq_ok_iff.1 h
  exact exists_readMarks_eq_ok_iff.1 ⟨marks, hmarks⟩

theorem resolveTable_congr_directives {catalog : Catalog} {t : TableDeclaration}
    (hvalid : ∀ d ∈ t.directives, d.WellFormed .table) (hvalid' : ∀ d ∈ directives', d.WellFormed .table)
    (hfirst : ∀ name, firstNamed name directives' = firstNamed name t.directives) :
    resolveTable catalog { t with directives := directives' } = resolveTable catalog t := by
  obtain ⟨marks, hmarks⟩ := exists_readMarks_eq_ok_iff.2 hvalid
  obtain ⟨marks', hmarks'⟩ := exists_readMarks_eq_ok_iff.2 hvalid'
  have htags : tagsOf { t with directives := directives' } = tagsOf t := by
    unfold tagsOf
    rw [hmarks, hmarks']
    exact congrArg Except.ok (firstTags_congr (firstOf_congr hmarks hmarks' hfirst))
  unfold resolveTable
  rw [htags]

theorem wellFormed_of_resolveTable {catalog : Catalog} {t : TableDeclaration} {table : Table}
    (h : resolveTable catalog t = .ok table) : ∀ d ∈ t.directives, d.WellFormed .table := by
  obtain ⟨-, htags, -⟩ := resolveTable_eq_ok_iff.1 h
  obtain ⟨marks, hmarks, -⟩ := map_eq_ok_iff.1 htags
  exact exists_readMarks_eq_ok_iff.1 ⟨marks, hmarks⟩

theorem resolveEnumeration_congr {e : EnumerationDeclaration} {enumeration : Enumeration}
    (hvalid' : ∀ d ∈ directives', d.WellFormed .enumeration)
    (hfirst : ∀ name, firstNamed name directives' = firstNamed name e.directives)
    (h : resolveEnumeration e = .ok enumeration) :
    resolveEnumeration { e with directives := directives' } = .ok enumeration := by
  obtain ⟨marks, indexing, enumerators, hmarks, hindexing, hvalues, rfl⟩ := resolveEnumeration_eq_ok_iff.1 h
  obtain ⟨marks', hmarks'⟩ := exists_readMarks_eq_ok_iff.2 hvalid'
  refine resolveEnumeration_eq_ok_iff.2 ⟨marks', indexing, enumerators, hmarks', ?_, hvalues, rfl⟩
  rw [firstIndexing_congr (firstOf_congr hmarks hmarks' hfirst), hindexing]

theorem wellFormed_of_resolveEnumeration {e : EnumerationDeclaration} {enumeration : Enumeration}
    (h : resolveEnumeration e = .ok enumeration) : ∀ d ∈ e.directives, d.WellFormed .enumeration := by
  obtain ⟨marks, _, _, hmarks, -⟩ := resolveEnumeration_eq_ok_iff.1 h
  exact exists_readMarks_eq_ok_iff.1 ⟨marks, hmarks⟩

end Firsts

/-! ### Rearranging, removing and inserting directives -/

/-- A rearrangement of directives that keeps those of each name in order. -/
structure Rearranges (directives directives' : List Directive) : Prop where
  perm : directives'.Perm directives
  order : ∀ name, directives'.filter (·.name.text = name) = directives.filter (·.name.text = name)

/-- What the directives of a site give, where only the first directive of each name counts, and the others need no more
than be well formed. -/
structure CountsFirsts {α : Type} (site : Site) (gives : List Directive → α → Prop) : Prop where
  rearrange : ∀ directives directives', Rearranges directives directives' →
    ∀ a, gives directives' a ↔ gives directives a
  remove : ∀ before d after, (∃ first ∈ before, first.name.text = d.name.text) →
    ∀ a, gives (before ++ d :: after) a → gives (before ++ after) a
  insert : ∀ before d after, (∃ first ∈ before, first.name.text = d.name.text) → d.WellFormed site →
    ∀ a, gives (before ++ after) a → gives (before ++ d :: after) a

section Changes

variable {directives directives' before after : List Directive} {d d' : Directive}

theorem Rearranges.symm (h : Rearranges directives directives') : Rearranges directives' directives :=
  ⟨h.perm.symm, fun name => (h.order name).symm⟩

/-- Neighbours with different names can change places. -/
theorem Rearranges.swap (h : d.name.text ≠ d'.name.text) (before after : List Directive) :
    Rearranges (before ++ d :: d' :: after) (before ++ d' :: d :: after) := by
  refine ⟨(List.Perm.swap d d' after).append_left before, fun name => ?_⟩
  rw [List.filter_append, List.filter_append]
  congr 1
  by_cases hd : d.name.text = name
  · have hd' : d'.name.text ≠ name := fun hd' => h (hd.trans hd'.symm)
    simp [hd, hd']
  · simp [List.filter_cons, hd]

theorem Rearranges.firstNamed_eq (h : Rearranges directives directives') (name : String) :
    firstNamed name directives' = firstNamed name directives := by
  unfold firstNamed
  rw [← List.head?_filter, ← List.head?_filter, h.order]

theorem Rearranges.wellFormed {site : Site} (h : Rearranges directives directives')
    (hvalid : ∀ d ∈ directives, d.WellFormed site) : ∀ d ∈ directives', d.WellFormed site :=
  fun d hd => hvalid d (h.perm.mem_iff.1 hd)

/-- A directive behind another of its name is never the first. -/
theorem firstNamed_append_cons (h : ∃ first ∈ before, first.name.text = d.name.text) (name : String) :
    firstNamed name (before ++ d :: after) = firstNamed name (before ++ after) := by
  unfold firstNamed
  rw [List.find?_append, List.find?_append]
  by_cases hd : d.name.text = name
  · -- the search ends in front of it
    obtain ⟨first, hfirst⟩ := Option.isSome_iff_exists.1
      (List.find?_isSome.2 (by simpa [hd] using h) : (before.find? (·.name.text = name)).isSome)
    rw [hfirst, Option.some_or, Option.some_or]
  · rw [List.find?_cons_of_neg (by simpa using hd)]

/-- Laws of what depends on the first directives only. -/
theorem CountsFirsts.of_congr {α : Type} {site : Site} {gives : List Directive → α → Prop}
    (hvalid : ∀ directives a, gives directives a → ∀ d ∈ directives, d.WellFormed site)
    (hcongr : ∀ directives directives', (∀ d ∈ directives', d.WellFormed site) →
      (∀ name, firstNamed name directives' = firstNamed name directives) →
        ∀ a, gives directives a → gives directives' a) :
    CountsFirsts site gives := by
  have hrearrange : ∀ directives directives', Rearranges directives directives' →
      ∀ a, gives directives a → gives directives' a := by
    intro directives directives' h a hgives
    exact hcongr _ _ (h.wellFormed (hvalid _ a hgives)) h.firstNamed_eq a hgives
  refine ⟨fun directives directives' h a => ⟨hrearrange _ _ h.symm a, hrearrange _ _ h a⟩, ?_, ?_⟩
  · intro before d after hfirst a hgives
    refine hcongr _ _ (fun e he => ?_) (fun name => (firstNamed_append_cons hfirst name).symm) a hgives
    refine hvalid _ a hgives e ?_
    simp only [List.mem_append, List.mem_cons] at he ⊢
    tauto
  · intro before d after hfirst hd a hgives
    refine hcongr _ _ (fun e he => ?_) (firstNamed_append_cons hfirst) a hgives
    rw [List.mem_append, List.mem_cons] at he
    rcases he with he | rfl | he
    · exact hvalid _ a hgives e (List.mem_append_left _ he)
    · exact hd
    · exact hvalid _ a hgives e (List.mem_append_right _ he)

end Changes

/-- In columns, tables and enumerations only the first directive of each name counts. -/
theorem only_first_directives_count :
    (∀ (catalog : Catalog) (table : String) (field : FieldDeclaration), CountsFirsts .field fun directives column =>
        resolveColumn catalog table { field with directives := directives } = .ok column) ∧
      (∀ (catalog : Catalog) (t : TableDeclaration), CountsFirsts .table fun directives table =>
        resolveTable catalog { t with directives := directives } = .ok table) ∧
      ∀ e : EnumerationDeclaration, CountsFirsts .enumeration fun directives enumeration =>
        resolveEnumeration { e with directives := directives } = .ok enumeration := by
  refine ⟨fun catalog table field => ?_, fun catalog t => ?_, fun e => ?_⟩
  · refine .of_congr (fun directives column h => ?_) fun directives directives' hvalid' hfirst column h => ?_
    · exact wellFormed_of_resolveColumn h
    · rw [← h]
      exact resolveColumn_congr (wellFormed_of_resolveColumn h) hvalid' hfirst
  · refine .of_congr (fun directives table h => ?_) fun directives directives' hvalid' hfirst table h => ?_
    · exact wellFormed_of_resolveTable h
    · rw [← h]
      exact resolveTable_congr_directives (wellFormed_of_resolveTable h) hvalid' hfirst
  · refine .of_congr (fun directives enumeration h => ?_) fun directives directives' hvalid' hfirst enumeration h => ?_
    · exact wellFormed_of_resolveEnumeration h
    · exact resolveEnumeration_congr (e := { e with directives := directives }) hvalid' hfirst h

/-- Of two extensions the first counts, wherever another directive stands, and the second can be left out. -/
theorem only_first_directives_count_repeated :
    ∃ (catalog : Catalog) (field : FieldDeclaration) (a unique b : Directive) (column : Column),
      field.directives = [a, unique, b] ∧ a.name.text = b.name.text ∧
        resolveColumn catalog "T" field = .ok column ∧ column.file = some "a" ∧
        resolveColumn catalog "T" { field with directives := [unique, a, b] } = .ok column ∧
        resolveColumn catalog "T" { field with directives := [a, unique] } = .ok column := by
  let a : Directive := ⟨7, ⟨8, "file"⟩, [⟨⟨13, "ext"⟩, .literal (.string 18 "a")⟩]⟩
  let unique : Directive := ⟨23, ⟨24, "unique"⟩, []⟩
  let b : Directive := ⟨31, ⟨32, "file"⟩, [⟨⟨37, "ext"⟩, .literal (.string 42 "b")⟩]⟩
  let field : FieldDeclaration := ⟨0, none, ⟨0, "x"⟩, [], .named 3 "i32", [a, unique, b]⟩
  let column : Column := ⟨some "x", none, false, .scalar .i32, true, false, none, some "a", none⟩
  have h : resolveColumn .empty "T" { field with directives := [a, unique, b] } = .ok column := by decide
  have hcounts := only_first_directives_count.1 .empty "T" field
  refine ⟨.empty, field, a, unique, b, column, rfl, rfl, h, rfl, ?_, ?_⟩
  · exact (hcounts.rearrange _ _ (.swap (by decide) [] [b]) column).2 h
  · exact hcounts.remove [a, unique] b [] ⟨a, .head _, rfl⟩ column h

end TableSchema
