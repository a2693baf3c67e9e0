import TableSchema.Proofs.References

/-!
# Looking up names in a schema

A look-up by name takes the first hit of a search.  It is exact (`Exact`) if it finds every item under its name and
nothing under any other, and a search is so wherever the names are without repetitions, items without a name apart
(`exact_find?`).

The names of a schema are never repeated, for reasons of their own: those of tables and enumerations when they are
registered, those of columns and enumerators when their declarations are resolved (`filterMap_name_nodup`,
`enumerators_nodup`).

Main statement: in every schema the names are unique and the look-ups exact (`lookups_exact`).
-/

namespace TableSchema

open Syntax Analysis

/-! ### Exact look-ups -/

section Exact

variable {α : Type} {items : List α}

/-- A look-up that finds every item under its name, and nothing under any other name. -/
structure Exact (lookup : String → Option α) (key : α → Option String) (items : List α) : Prop where
  found : ∀ a ∈ items, ∀ name, key a = some name → lookup name = some a
  missing : ∀ name, (∀ a ∈ items, key a ≠ some name) → lookup name = none

/-- A search by name is exact if no name comes twice. -/
theorem exact_find? {key : α → Option String} (h : (items.filterMap key).Nodup) :
    Exact (fun name => items.find? fun a => key a = some name) key items where
  found := by
    induction items with
    | nil => simp
    | cons first rest ih =>
      intro a ha name hname
      rcases List.mem_cons.1 ha with rfl | ha
      · exact List.find?_cons_of_pos (by simpa using hname)
      · have hlater : name ∈ rest.filterMap key := List.mem_filterMap.2 ⟨a, ha, hname⟩
        have hfirst : key first ≠ some name := by
          intro heq
          rw [List.filterMap_cons_some heq, List.nodup_cons] at h
          exact h.1 hlater
        have hrest : (rest.filterMap key).Nodup :=
          h.sublist ((List.sublist_cons_self first rest).filterMap key)
        show List.find? _ (first :: rest) = some a
        rw [List.find?_cons_of_neg (by simpa using hfirst)]
        exact ih hrest a ha name hname
  missing := by
    intro name hother
    rw [List.find?_eq_none]
    intro a ha
    simpa using hother a ha

/-- The same where every item has a name. -/
theorem exact_find?_of_nodup_map {key : α → String} (h : (items.map key).Nodup) :
    Exact (fun name => items.find? fun a => key a = name) (fun a => some (key a)) items := by
  have hnodup : (items.filterMap fun a => some (key a)).Nodup := by
    rw [List.filterMap_eq_map']
    exact h
  simpa only [Option.some.injEq] using exact_find? hnodup

end Exact

/-! ### Names of columns and enumerators -/

/-- The named columns of a table have different names. -/
theorem filterMap_name_nodup {catalog : Catalog} {t : TableDeclaration} {table : Table}
    (h : resolveTable catalog t = .ok table) : (table.columns.filterMap (·.name)).Nodup := by
  obtain ⟨-, -, hcolumns⟩ := resolveTable_eq_ok_iff.1 h
  have hnames : table.columns.map (·.name) = t.fields.map FieldDeclaration.columnName :=
    map_eq_map_of_forall₂ (resolveFields_forall₂ hcolumns) fun _ _ => name_of_resolveColumn
  have hfilter : table.columns.filterMap (·.name) = t.fields.filterMap FieldDeclaration.columnName := by
    simpa [List.filterMap_map, Function.comp_def] using congrArg (List.filterMap id) hnames
  rw [hfilter]
  exact (resolveFields_eq_ok_iff.1 hcolumns).1

/-- The names of enumerators are those that they are declared with, one by one. -/
theorem eq_map_of_resolveValues {seen : List String} {values : List EnumeratorDeclaration}
    {names : List (Option String)} (h : resolveValues seen values = .ok names) :
    names = values.map EnumeratorDeclaration.givenName := by
  induction values generalizing seen names with
  | nil =>
    cases h
    rfl
  | cons value values ih =>
    rw [resolveValues] at h
    rw [List.map_cons]
    unfold EnumeratorDeclaration.givenName
    cases hname : nameOf value.name.text with
    | none =>
      simp only [hname] at h
      obtain ⟨rest, hrest, rfl⟩ := map_eq_ok_iff.1 h
      rw [ih hrest]
      rfl
    | some name =>
      simp only [hname] at h
      by_cases hseen : name ∈ seen
      · rw [if_pos hseen] at h
        cases h
      · rw [if_neg hseen] at h
        obtain ⟨rest, hrest, rfl⟩ := map_eq_ok_iff.1 h
        rw [ih hrest]
        rfl

/-- The enumerators of an enumeration are the declared ones.  A single placeholder is dropped, and nothing else is. -/
theorem enumerators_of_resolveEnumeration {e : EnumerationDeclaration} {enumeration : Enumeration}
    (h : resolveEnumeration e = .ok enumeration) :
    enumeration.enumerators =
      if e.values.map EnumeratorDeclaration.givenName = [none] then []
      else e.values.map EnumeratorDeclaration.givenName := by
  obtain ⟨_, _, names, -, -, hvalues, rfl⟩ := resolveEnumeration_eq_ok_iff.1 h
  rw [eq_map_of_resolveValues hvalues]

/-- The named enumerators of an enumeration have different names. -/
theorem enumerators_nodup {e : EnumerationDeclaration} {enumeration : Enumeration}
    (h : resolveEnumeration e = .ok enumeration) : (enumeration.enumerators.filterMap id).Nodup := by
  have hnames := (enumerationViolations_eq_nil_iff.1 ((resolveEnumeration_reports e).exists_ok_iff.1 ⟨_, h⟩)).names
  rw [enumerators_of_resolveEnumeration h]
  split
  · exact List.nodup_nil
  · rw [List.filterMap_map]
    exact hnames

/-! ### Schemas -/

/-- A schema in which no name of a kind comes twice. -/
structure Schema.NamesUnique (schema : Schema) : Prop where
  tables : (schema.tables.map (·.name)).Nodup
  enumerations : (schema.enumerations.map (·.name)).Nodup
  columns : ∀ t ∈ schema.tables, (t.columns.filterMap (·.name)).Nodup
  enumerators : ∀ e ∈ schema.enumerations, (e.enumerators.filterMap id).Nodup

/-- A schema in which everything is found by its name, and the placeholder nowhere. -/
structure Schema.LookupsExact (schema : Schema) : Prop where
  tables : Exact schema.table? (fun t => some t.name) schema.tables
  enumerations : Exact schema.enumeration? (fun e => some e.name) schema.enumerations
  columns : ∀ t ∈ schema.tables, Exact t.column? (·.name) t.columns
  placeholder : ∀ t ∈ schema.tables, t.column? "_" = none

/-- In a schema no name comes twice, and so its look-ups are exact. -/
theorem lookups_exact {sources : List Source} {schema : Schema} (h : analyze sources = .ok schema) :
    schema.NamesUnique ∧ schema.LookupsExact := by
  obtain ⟨documents, -, hwell, hresolves⟩ := analyze_eq_ok_iff.1 h
  rw [← map_value_flatMap_definitionsOf] at hwell
  have htables : (schema.tables.map (·.name)).Nodup := by
    rw [hresolves.tableNames_eq, tableNames_declared]
    exact hwell.tableNames
  have henumerations : (schema.enumerations.map (·.name)).Nodup := by
    rw [hresolves.enumerationNames_eq, enumerationNames_declared]
    exact hwell.enumerationNames
  have hcolumns : ∀ t ∈ schema.tables, (t.columns.filterMap (·.name)).Nodup := by
    intro t ht
    obtain ⟨_, -, htable⟩ := exists_of_forall₂_of_mem hresolves.tables ht
    exact filterMap_name_nodup htable
  have henumerators : ∀ e ∈ schema.enumerations, (e.enumerators.filterMap id).Nodup := by
    intro e he
    obtain ⟨_, -, henumeration⟩ := exists_of_forall₂_of_mem hresolves.enumerations he
    exact enumerators_nodup henumeration
  refine ⟨⟨htables, henumerations, hcolumns, henumerators⟩, ?_⟩
  refine ⟨exact_find?_of_nodup_map htables, exact_find?_of_nodup_map henumerations,
    fun t ht => exact_find? (hcolumns t ht), fun t ht => ?_⟩
  obtain ⟨_, -, htable⟩ := exists_of_forall₂_of_mem hresolves.tables ht
  rw [column?_eq htable]
  exact if_pos rfl

/-- The look-ups of a schema with placeholders among its columns and enumerators, and with a name that a table and an
enumeration share. -/
theorem lookups_exact_with_placeholders :
    ∃ sources schema, analyze sources = .ok schema ∧ schema.NamesUnique ∧ schema.LookupsExact := by
  let sources : List Source :=
    [.numbered 1 "type A \x7b _: i32 b: E _: [_] \x7d", .numbered 2 "enum E @indexing(first: 0) \x7b _ x _ \x7d",
      .numbered 3 "type E \x7b b: bool \x7d"]
  let unnamed (array : Bool) (type : ColumnType) : Column :=
    ⟨none, none, array, type, false, false, none, none, none⟩
  let b : Column := ⟨some "b", none, false, .foreignRow, false, false, some ⟨"E", none⟩, none, none⟩
  let b' : Column := ⟨some "b", none, false, .scalar .bool, false, false, none, none, none⟩
  let tables : List Table := [⟨"A", [], [unnamed false (.scalar .i32), b, unnamed true .array]⟩, ⟨"E", [], [b']⟩]
  have h : analyze sources = .ok ⟨tables, [⟨"E", 0, [none, some "x", none]⟩]⟩ := by decide +kernel
  exact ⟨sources, _, h, lookups_exact h⟩

end TableSchema
