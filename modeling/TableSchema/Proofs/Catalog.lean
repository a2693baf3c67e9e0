import Mathlib.Data.List.Nodup
import TableSchema.Typing
import TableSchema.Proofs.FirstFinding

/-!
# Declared names and what they mean

* `declared definitions` is the catalog of all tables and all enumerations among definitions; in a catalog without
  repeated names a table is found under its name (`Catalog.table?_of_mem`).
* `TypeExpr.Declares` says which types are declared in the right form (`declaredType_eq_ok_iff`).
* `Means` lists the rules by which a name has a meaning as a type inside a table (`meaning?_eq_some_iff`).  There is
  one exactly if the name is that of the enclosing table, reserved, or in the catalog (`isSome_meaning?_iff`).
-/

namespace TableSchema

open Syntax

/-! ### Declarations -/

/-- The table that a definition declares. -/
def Syntax.Definition.table? : Definition → Option TableDeclaration
  | .table t => some t
  | _ => none

/-- The enumeration that a definition declares. -/
def Syntax.Definition.enumeration? : Definition → Option EnumerationDeclaration
  | .enumeration e => some e
  | _ => none

/-- The catalog of all tables and all enumerations among definitions. -/
def declared (definitions : List (Sourced Definition)) : Catalog where
  tables := definitions.filterMap fun d => d.value.table?.map (⟨d.source, ·⟩)
  enumerations := definitions.filterMap fun d => d.value.enumeration?.map (⟨d.source, ·⟩)

theorem Syntax.Definition.table?_eq_some_iff {d : Definition} {t : TableDeclaration} :
    d.table? = some t ↔ d = .table t := by
  cases d <;> simp [Definition.table?]

theorem Syntax.Definition.enumeration?_eq_some_iff {d : Definition} {e : EnumerationDeclaration} :
    d.enumeration? = some e ↔ d = .enumeration e := by
  cases d <;> simp [Definition.enumeration?]

theorem mem_tables_declared {definitions : List (Sourced Definition)} {t : Sourced TableDeclaration} :
    t ∈ (declared definitions).tables ↔ ⟨t.source, .table t.value⟩ ∈ definitions := by
  obtain ⟨source, t⟩ := t
  simp only [declared, List.mem_filterMap, Option.map_eq_some_iff, Definition.table?_eq_some_iff]
  constructor
  · rintro ⟨⟨_, _⟩, hd, _, rfl, ⟨⟩⟩
    exact hd
  · intro h
    exact ⟨_, h, t, rfl, rfl⟩

theorem mem_enumerations_declared {definitions : List (Sourced Definition)} {e : Sourced EnumerationDeclaration} :
    e ∈ (declared definitions).enumerations ↔ ⟨e.source, .enumeration e.value⟩ ∈ definitions := by
  obtain ⟨source, e⟩ := e
  simp only [declared, List.mem_filterMap, Option.map_eq_some_iff, Definition.enumeration?_eq_some_iff]
  constructor
  · rintro ⟨⟨_, _⟩, hd, _, rfl, ⟨⟩⟩
    exact hd
  · intro h
    exact ⟨_, h, e, rfl, rfl⟩

/-! ### Looking up names -/

namespace Catalog

variable {catalog : Catalog} {name : String}

theorem table?_eq_some {t : Sourced TableDeclaration} (h : catalog.table? name = some t) :
    t ∈ catalog.tables ∧ t.value.name.text = name :=
  ⟨List.mem_of_find?_eq_some h, by simpa using List.find?_some h⟩

theorem table?_eq_none_iff : catalog.table? name = none ↔ name ∉ catalog.tableNames := by
  simp [table?, tableNames]

theorem isSome_table?_iff : (catalog.table? name).isSome ↔ name ∈ catalog.tableNames := by
  simp [table?, tableNames]

theorem isSome_enumeration?_iff : (catalog.enumeration? name).isSome ↔ name ∈ catalog.enumerationNames := by
  simp [enumeration?, enumerationNames]

/-- Without repeated names every table is the one with its name. -/
theorem table?_of_mem (hnodup : catalog.tableNames.Nodup) {t : Sourced TableDeclaration} (ht : t ∈ catalog.tables) :
    catalog.table? t.value.name.text = some t := by
  have hsome : (catalog.table? t.value.name.text).isSome :=
    isSome_table?_iff.2 (List.mem_map_of_mem ht)
  obtain ⟨found, hfound⟩ := Option.isSome_iff_exists.1 hsome
  obtain ⟨hmem, hname⟩ := table?_eq_some hfound
  rw [hfound, List.inj_on_of_nodup_map hnodup hmem ht hname]

end Catalog

/-! ### Declared types -/

/-- A declared type in the right form, whether it is an array, and its name. -/
inductive Syntax.TypeExpr.Declares : TypeExpr → Bool → String → Prop
  | single (start : Nat) {name : String} (h : name ≠ placeholder) : Declares (.named start name) false name
  | list (start inner : Nat) (name : String) : Declares (.list start (.named inner name)) true name

theorem declaredType_eq_ok_iff {type : TypeExpr} {array : Bool} {name : String} :
    declaredType type = .ok ⟨array, name⟩ ↔ type.Declares array name := by
  constructor
  · intro h
    unfold declaredType at h
    split at h
    · split at h
      · cases h
      · rename_i hname
        cases h
        exact .single _ hname
    · cases h
      exact .list _ _ _
    · cases h
  · intro h
    cases h with
    | single start hname => simp [declaredType, hname]
    | list start inner name => rfl

theorem Syntax.TypeExpr.Declares.unique {type : TypeExpr} {array array' : Bool} {name name' : String}
    (h : type.Declares array name) (h' : type.Declares array' name') : array = array' ∧ name = name' := by
  cases h <;> cases h' <;> exact ⟨rfl, rfl⟩

/-- A type that is no array is its bare name. -/
theorem Syntax.TypeExpr.Declares.eq_named {type : TypeExpr} {name : String} (h : type.Declares false name) :
    ∃ start, type = .named start name := by
  cases h with
  | single start _ => exact ⟨start, rfl⟩

/-! ### Meaning of names -/

/-- The names that stand for themselves wherever they are used as a type. -/
def reservedNames : List String :=
  anyRow :: placeholder :: Scalar.all.map Scalar.text

theorem Scalar.text_inj {s s' : Scalar} : s.text = s'.text ↔ s = s' := by
  constructor
  · intro h
    have heq := congrArg Scalar.ofName? h
    rw [Scalar.ofName?_text, Scalar.ofName?_text] at heq
    exact Option.some.inj heq
  · rintro rfl
    rfl

theorem isSome_ofName?_iff {name : String} : (Scalar.ofName? name).isSome ↔ ∃ s : Scalar, name = s.text := by
  constructor
  · intro h
    obtain ⟨s, hs⟩ := Option.isSome_iff_exists.1 h
    exact ⟨s, (Scalar.text_of_ofName? hs).symm⟩
  · rintro ⟨s, rfl⟩
    rw [Scalar.ofName?_text]
    rfl

theorem mem_reservedNames_iff {name : String} :
    name ∈ reservedNames ↔ name = anyRow ∨ name = placeholder ∨ ∃ s : Scalar, name = s.text := by
  have hall : ∀ s : Scalar, s ∈ Scalar.all := by
    intro s
    cases s <;> decide
  simp only [reservedNames, List.mem_cons, List.mem_map]
  constructor
  · rintro (h | h | ⟨s, -, rfl⟩)
    · exact .inl h
    · exact .inr (.inl h)
    · exact .inr (.inr ⟨s, rfl⟩)
  · rintro (h | h | ⟨s, rfl⟩)
    · exact .inl h
    · exact .inr (.inl h)
    · exact .inr (.inr ⟨s, hall s, rfl⟩)

theorem Scalar.mem_reservedNames (s : Scalar) : s.text ∈ reservedNames :=
  mem_reservedNames_iff.2 (.inr (.inr ⟨s, rfl⟩))

/-- What a name means as a type inside a table, and what it refers to.  The first rule that fits counts. -/
inductive Means (catalog : Catalog) (table : String) : String → ColumnType → Option String → Prop
  | own : Means catalog table table .row (some table)
  | anyRow (htable : anyRow ≠ table) : Means catalog table anyRow .foreignRow none
  | unknown (htable : placeholder ≠ table) : Means catalog table placeholder .array none
  | scalar (s : Scalar) (htable : s.text ≠ table) : Means catalog table s.text (.scalar s) none
  | foreign {name : String} (htable : name ≠ table) (hreserved : name ∉ reservedNames)
    (hname : name ∈ catalog.tableNames) : Means catalog table name .foreignRow (some name)
  | enumeration {name : String} (htable : name ≠ table) (hreserved : name ∉ reservedNames)
    (hnot : name ∉ catalog.tableNames) (hname : name ∈ catalog.enumerationNames) :
    Means catalog table name .enumRow (some name)

section Meaning

variable {catalog : Catalog} {table name : String}

/-- A name outside the reserved ones means what it is declared as. -/
private theorem meaning?_of_not_reserved (htable : name ≠ table) (hreserved : name ∉ reservedNames) :
    meaning? catalog table name =
      if name ∈ catalog.tableNames then some (.foreignRow, some name)
      else if name ∈ catalog.enumerationNames then some (.enumRow, some name)
      else none := by
  have hnot := mt mem_reservedNames_iff.2 hreserved
  simp only [not_or] at hnot
  obtain ⟨hrow, hplaceholder, hscalar⟩ := hnot
  have hnone : Scalar.ofName? name = none := by
    simpa using mt isSome_ofName?_iff.1 hscalar
  unfold meaning?
  rw [if_neg htable, if_neg hrow, if_neg hplaceholder, hnone]
  simp only [Catalog.isSome_table?_iff, Catalog.isSome_enumeration?_iff]

theorem meaning?_eq_some_iff {type : ColumnType} {target : Option String} :
    meaning? catalog table name = some (type, target) ↔ Means catalog table name type target := by
  have hrow : ∀ s : Scalar, s.text ≠ anyRow := by intro s; cases s <;> decide
  have hplaceholder : ∀ s : Scalar, s.text ≠ placeholder := by intro s; cases s <;> decide
  constructor
  · intro h
    -- The cases are those of the rules: the own name, the reserved ones, and the others.
    by_cases htable : name = table
    · subst htable
      simp only [meaning?, if_true, Option.some.injEq, Prod.mk.injEq] at h
      obtain ⟨rfl, rfl⟩ := h
      exact .own
    by_cases hreserved : name ∈ reservedNames
    · unfold meaning? at h
      rw [if_neg htable] at h
      rcases mem_reservedNames_iff.1 hreserved with rfl | rfl | ⟨s, rfl⟩
      · rw [if_pos rfl] at h
        cases h
        exact .anyRow htable
      · rw [if_neg (by decide), if_pos rfl] at h
        cases h
        exact .unknown htable
      · rw [if_neg (hrow s), if_neg (hplaceholder s), Scalar.ofName?_text] at h
        cases h
        exact .scalar s htable
    · rw [meaning?_of_not_reserved htable hreserved] at h
      split at h
      · rename_i hname
        cases h
        exact .foreign htable hreserved hname
      · rename_i hnot
        split at h
        · rename_i hname
          cases h
          exact .enumeration htable hreserved hnot hname
        · cases h
  · intro h
    cases h with
    | own => simp [meaning?]
    | anyRow htable => rw [meaning?, if_neg htable, if_pos rfl]
    | unknown htable => rw [meaning?, if_neg htable, if_neg (by decide), if_pos rfl]
    | scalar s htable =>
      rw [meaning?, if_neg htable, if_neg (hrow s), if_neg (hplaceholder s), Scalar.ofName?_text]
    | foreign htable hreserved hname => rw [meaning?_of_not_reserved htable hreserved, if_pos hname]
    | enumeration htable hreserved hnot hname =>
      rw [meaning?_of_not_reserved htable hreserved, if_neg hnot, if_pos hname]

/-- A name has one meaning inside a table. -/
theorem Means.unique {type type' : ColumnType} {target target' : Option String}
    (h : Means catalog table name type target) (h' : Means catalog table name type' target') :
    type = type' ∧ target = target' := by
  have heq := (meaning?_eq_some_iff.2 h).symm.trans (meaning?_eq_some_iff.2 h')
  simpa using heq

/-- A name refers to what it names unless it is reserved and not the enclosing table's. -/
theorem Means.target_eq {type : ColumnType} {target : Option String} (h : Means catalog table name type target) :
    target = if name = table ∨ name ∉ reservedNames then some name else none := by
  cases h with
  | own => simp
  | anyRow htable => simp [htable, mem_reservedNames_iff]
  | unknown htable => simp [htable, mem_reservedNames_iff]
  | scalar s htable => simp [htable, s.mem_reservedNames]
  | foreign htable hreserved hname => simp [hreserved]
  | enumeration htable hreserved hnot hname => simp [hreserved]

/-- A name means something if it is the enclosing table's, reserved, or declared. -/
theorem isSome_meaning?_iff :
    (meaning? catalog table name).isSome ↔
      name = table ∨ name ∈ reservedNames ∨ name ∈ catalog.tableNames ∨ name ∈ catalog.enumerationNames := by
  constructor
  · intro h
    obtain ⟨⟨type, target⟩, hm⟩ := Option.isSome_iff_exists.1 h
    cases meaning?_eq_some_iff.1 hm with
    | own => exact .inl rfl
    | anyRow htable => exact .inr (.inl (mem_reservedNames_iff.2 (.inl rfl)))
    | unknown htable => exact .inr (.inl (mem_reservedNames_iff.2 (.inr (.inl rfl))))
    | scalar s htable => exact .inr (.inl s.mem_reservedNames)
    | foreign htable hreserved hname => exact .inr (.inr (.inl hname))
    | enumeration htable hreserved hnot hname => exact .inr (.inr (.inr hname))
  · intro h
    have hsome : ∀ {type target}, Means catalog table name type target → (meaning? catalog table name).isSome := by
      intro type target hm
      rw [meaning?_eq_some_iff.2 hm]
      rfl
    by_cases htable : name = table
    · subst htable
      exact hsome .own
    by_cases hreserved : name ∈ reservedNames
    · rcases mem_reservedNames_iff.1 hreserved with rfl | rfl | ⟨s, rfl⟩
      · exact hsome (.anyRow htable)
      · exact hsome (.unknown htable)
      · exact hsome (.scalar s htable)
    by_cases hname : name ∈ catalog.tableNames
    · exact hsome (.foreign htable hreserved hname)
    rcases h with h | h | h | h
    · exact absurd h htable
    · exact absurd h hreserved
    · exact absurd h hname
    · exact hsome (.enumeration htable hreserved hname h)

end Meaning

theorem classify_eq_ok_iff {catalog : Catalog} {table : String} {type : TypeExpr} {c : Classification} :
    classify catalog table type = .ok c ↔
      ∃ name, type.Declares c.array name ∧ Means catalog table name c.type c.target := by
  obtain ⟨array, columnType, target⟩ := c
  unfold classify
  simp only [← declaredType_eq_ok_iff, ← meaning?_eq_some_iff]
  cases hd : declaredType type with
  | error problem => simp
  | ok declared =>
    obtain ⟨array', name⟩ := declared
    simp only [Except.ok.injEq, DeclaredType.mk.injEq]
    cases hm : meaning? catalog table name with
    | none =>
      simp only [reduceCtorEq, false_iff, not_exists, not_and]
      rintro _ ⟨rfl, rfl⟩ h
      simp [hm] at h
    | some meaning =>
      obtain ⟨columnType', target'⟩ := meaning
      constructor
      · intro h
        cases h
        exact ⟨name, ⟨rfl, rfl⟩, hm⟩
      · rintro ⟨_, ⟨rfl, rfl⟩, h⟩
        rw [hm] at h
        cases h
        rfl

end TableSchema
