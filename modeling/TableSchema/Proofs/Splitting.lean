import TableSchema.Proofs.Extracts
import TableSchema.Proofs.Spans

/-!
# Cutting tables out of a document

`splitTables` cuts a text up without reading it: it knows no strings and no comments, and of a table no more than a
keyword with one space behind it, a name and the next two braces.  The parser, who knows all of this, finds the same
tables in a document that is `Separable`: every table has a block, with one space before its name and no closing brace
in it, and nowhere else does the text look like a table.

Main statements: cut out of a separable document that has a schema, the texts are the tables of that schema
(`splitsInto_of_separable`), and none of the conditions can be left out (`not_splitAgrees`).
-/

namespace TableSchema

open Text Syntax Analysis

/-! ### Extracts -/

namespace Extract

/-- A name, a header and a body in braces behind an opening are an extract, if no brace comes too early. -/
theorem afterOpening?_append {name behind : List Char} (hname : ∀ c ∈ name, isWord c = true) (hne : name ≠ [])
    (hnext : ∀ c ∈ behind.head?, isWord c = false) (hopen : '\x7b' ∈ behind)
    (hclose : '\x7d' ∉ behind.dropWhile (· ≠ '\x7b')) (after : List Char) :
    ∃ e, afterOpening? (name ++ (behind ++ '\x7d' :: after)) = some e ∧ e.name = name ∧
      e.chars = opening ++ (name ++ (behind ++ ['\x7d'])) := by
  obtain ⟨header, inside, rfl, hheader⟩ := List.eq_append_cons_of_mem hopen
  rw [(takeWhile_ne_append hheader inside).2, List.mem_cons, not_or] at hclose
  have hmaximal : ∀ c ∈ header.head?, isWord c = false := by
    intro c hc
    refine hnext c ?_
    rw [List.head?_append, Option.mem_def.1 hc]
    rfl
  refine ⟨⟨name, header, inside⟩, ?_, rfl, by simp [chars]⟩
  exact afterOpening?_eq_some_iff.2 ⟨⟨hne, hname, hmaximal, hheader, hclose.2⟩, after, by simp⟩

/-- A piece that starts where nothing comes before it is the first of pieces in order. -/
theorem exists_eq_cons {pieces : List (Nat × Extract)} {k : Nat} {e : Extract}
    (horder : pieces.Pairwise fun a b => a.1 + a.2.chars.length ≤ b.1) (hfrom : ∀ piece ∈ pieces, k ≤ piece.1)
    (hmem : (k, e) ∈ pieces) : ∃ others, pieces = (k, e) :: others := by
  cases pieces with
  | nil => cases hmem
  | cons first others =>
    rcases List.mem_cons.1 hmem with rfl | hmem
    · exact ⟨others, rfl⟩
    · have hbefore := (List.pairwise_cons.1 horder).1 _ hmem
      have hstart := hfrom first List.mem_cons_self
      have hsize := List.length_pos_iff.2 first.2.chars_ne_nil
      dsimp only at hbefore
      omega

/-- A text in which extracts start at some positions, and at others only inside of these extracts, has these
extracts. -/
theorem all_drop_eq {text : List Char} {pieces : List (Nat × Extract)} {k : Nat}
    (hat : ∀ piece ∈ pieces, at? (text.drop piece.1) = some piece.2)
    (horder : pieces.Pairwise fun a b => a.1 + a.2.chars.length ≤ b.1) (hfrom : ∀ piece ∈ pieces, k ≤ piece.1)
    (honly : ∀ p, k ≤ p → at? (text.drop p) ≠ none →
      ∃ piece ∈ pieces, piece.1 ≤ p ∧ p < piece.1 + piece.2.chars.length) :
    all (text.drop k) = pieces.map (·.2) := by
  induction hn : text.length - k using Nat.strongRecOn generalizing k pieces with
  | ind n ih =>
    subst hn
    cases htext : text.drop k with
    | nil =>
      obtain rfl : pieces = [] := by
        refine List.eq_nil_iff_forall_not_mem.2 fun piece hpiece => ?_
        have hlength := List.drop_eq_nil_iff.1 htext
        have hstart := hfrom piece hpiece
        have hnone := hat piece hpiece
        rw [List.drop_eq_nil_of_le (by omega)] at hnone
        cases hnone
      rw [all]
      rfl
    | cons c rest =>
      have hlength := congrArg List.length htext
      rw [List.length_drop, List.length_cons] at hlength
      have hrest : rest = text.drop (k + 1) := by
        rw [← List.tail_drop, htext]
        rfl
      rw [all]
      cases hfound : at? (c :: rest) with
      | none =>
        dsimp only
        rw [hrest]
        refine ih _ (by omega) hat horder (fun piece hpiece => ?_) (fun p hp => honly p (by omega)) rfl
        have hstart := hfrom piece hpiece
        have hne : piece.1 ≠ k := by
          rintro rfl
          have hsome := hat piece hpiece
          rw [htext, hfound] at hsome
          cases hsome
        omega
      | some e =>
        dsimp only
        obtain ⟨⟨p, e'⟩, hpiece, hle, -⟩ := honly k (Nat.le_refl k) (by rw [htext, hfound]; simp)
        obtain rfl : p = k := Nat.le_antisymm hle (hfrom _ hpiece)
        obtain rfl : e = e' := by
          have hsome := hat _ hpiece
          rw [htext, hfound] at hsome
          exact Option.some.inj hsome
        obtain ⟨others, rfl⟩ := exists_eq_cons horder hfrom hpiece
        obtain ⟨hbehind, horder⟩ := List.pairwise_cons.1 horder
        have hsize := List.length_pos_iff.2 e.chars_ne_nil
        have hdrop : rest.drop (e.chars.length - 1) = text.drop (p + e.chars.length) := by
          rw [hrest, List.drop_drop]
          congr 1
          omega
        rw [hdrop, List.map_cons]
        refine congrArg _ (ih _ (by omega) (fun other hother => hat other (List.mem_cons_of_mem _ hother)) horder
          hbehind (fun q hq hne => ?_) rfl)
        obtain ⟨other, hother, hle, hlt⟩ := honly q (by omega) hne
        rcases List.mem_cons.1 hother with rfl | hother
        · dsimp only at hlt
          omega
        · exact ⟨other, hother, hle, hlt⟩

end Extract

/-! ### Tables as extracts -/

/-- Whether a table stands in a text in such a way that it can be cut out of it. -/
structure Syntax.TableDeclaration.Extractable (text : List Char) (t : TableDeclaration) : Prop where
  /-- The keyword and one space come right before the name. -/
  opening : Extract.opening <:+ text.take t.name.start
  /-- There is a block of fields. -/
  fields : t.fields ≠ []
  /-- Behind the first brace that opens, the last character is the first brace that closes. -/
  closing : '\x7d' ∉ ((text.take (t.stop - 1)).drop t.name.start).dropWhile (· ≠ '\x7b')

instance (text : List Char) (t : TableDeclaration) : Decidable (t.Extractable text) :=
  decidable_of_iff (Extract.opening <:+ text.take t.name.start ∧ t.fields ≠ [] ∧
      '\x7d' ∉ ((text.take (t.stop - 1)).drop t.name.start).dropWhile (· ≠ '\x7b'))
    ⟨fun ⟨hopening, hfields, hclosing⟩ => ⟨hopening, hfields, hclosing⟩,
      fun ⟨hopening, hfields, hclosing⟩ => ⟨hopening, hfields, hclosing⟩⟩

/-- Whether extracts are found in the text of a document where its tables are, and nowhere else. -/
structure Syntax.Document.Separable (d : Document) : Prop where
  tables : ∀ t ∈ tableDeclarations d.definitions, t.Extractable d.source.body.toList
  only : ∀ p < d.source.body.toList.length, Extract.at? (d.source.body.toList.drop p) ≠ none →
    ∃ t ∈ tableDeclarations d.definitions, t.name.start ≤ p + Extract.opening.length ∧ p < t.stop

instance (d : Document) : Decidable d.Separable :=
  decidable_of_iff ((∀ t ∈ tableDeclarations d.definitions, t.Extractable d.source.body.toList) ∧
      ∀ p < d.source.body.toList.length, Extract.at? (d.source.body.toList.drop p) ≠ none →
        ∃ t ∈ tableDeclarations d.definitions, t.name.start ≤ p + Extract.opening.length ∧ p < t.stop)
    ⟨fun ⟨htables, honly⟩ => ⟨htables, honly⟩, fun ⟨htables, honly⟩ => ⟨htables, honly⟩⟩

/-- Whether an extract is a table of a text. -/
structure Extract.IsTable (text : List Char) (t : TableDeclaration) (e : Extract) : Prop where
  found : at? (text.drop (t.name.start - opening.length)) = some e
  name : String.ofList e.name = t.name.text
  start : opening.length ≤ t.name.start
  stop : t.name.start - opening.length + e.chars.length = t.stop
  parse : ∀ source : Source, source.body.toList = e.chars →
    ∃ t', parse source = .ok ⟨source, [.table t']⟩ ∧ t'.bare = t.bare

section Tables

variable {text : List Char} {t t' : TableDeclaration}

/-- The opening of a table that can be cut out. -/
theorem drop_of_extractable (h : t.Extractable text) (hname : text.drop t.name.start ≠ []) :
    Extract.opening.length ≤ t.name.start ∧
      text.drop (t.name.start - Extract.opening.length) = Extract.opening ++ text.drop t.name.start := by
  obtain ⟨before, hbefore⟩ := h.opening
  have hlength := congrArg List.length hbefore
  have hpos := List.length_pos_iff.2 hname
  rw [List.length_drop] at hpos
  rw [List.length_append, List.length_take, Nat.min_eq_left (by omega)] at hlength
  have hsplit : text = before ++ (Extract.opening ++ text.drop t.name.start) := by
    rw [← List.append_assoc, hbefore, List.take_append_drop]
  refine ⟨by omega, ?_⟩
  calc text.drop (t.name.start - Extract.opening.length)
      = (before ++ (Extract.opening ++ text.drop t.name.start)).drop before.length := by
        rw [← hsplit]
        congr 1
        omega
    _ = Extract.opening ++ text.drop t.name.start := List.drop_left

/-- A table that can be cut out of its text is an extract of it, and read on its own it is the same table. -/
theorem exists_isTable (h : t.Extractable text) (hstands : t.StandsIn text) : ∃ e, Extract.IsTable text t e := by
  obtain ⟨c, c', hc, hends, hlast, hblock⟩ := hstands
  obtain ⟨behind, after, htext, hstop, hne, hword, hnext, hopen⟩ := exists_text_of_block hblock hc hends
  obtain ⟨hstart, hopening⟩ := drop_of_extractable h (by rw [htext]; exact List.append_ne_nil_of_left_ne_nil hne _)
  have hclose : '\x7d' ∉ behind.dropWhile (· ≠ '\x7b') := by
    have hclosing := h.closing
    have hname : ∀ a ∈ t.name.text.toList, decide (a ≠ '\x7b') = true := by
      intro a ha
      refine decide_eq_true fun heq => ?_
      rw [heq] at ha
      exact absurd (hword _ ha) (by decide)
    have hextent : t.stop - 1 - t.name.start = (t.name.text.toList ++ behind).length := by omega
    rw [List.drop_take, htext, hextent, ← List.append_assoc, List.take_left,
      List.dropWhile_append_of_pos hname] at hclosing
    exact hclosing
  obtain ⟨e, he, hname, hchars⟩ := Extract.afterOpening?_append hword hne hnext hopen hclose after
  refine ⟨e, ?_, by rw [hname, String.ofList_toList], hstart, ?_, fun source hsource => ?_⟩
  · rw [hopening, htext]
    exact he
  · rw [hchars, hlast, hstop]
    simp only [List.length_append, List.length_singleton]
    omega
  · rw [hchars] at hsource
    have hpiece : text.drop t.name.start = t.name.text.toList ++ (behind ++ ['\x7d']) ++ after := by
      rw [htext]
      simp
    refine exists_parse_of_block hblock hc hends hpiece ?_ hsource
    rw [hstop]
    simp only [List.length_append, List.length_singleton]
    omega

/-- The closing brace of a table comes before the opening of the next one. -/
theorem stop_le_of_extractable (hstands : t.StandsIn text) (h : t'.Extractable text)
    (hstands' : t'.StandsIn text) (hle : t.stop ≤ t'.name.start) : t.stop ≤ t'.name.start - Extract.opening.length := by
  obtain ⟨c, c', hc, hends, hlast, hblock⟩ := hstands
  obtain ⟨behind, after, htext, hstop, -⟩ := exists_text_of_block hblock hc hends
  obtain ⟨d, d', hd, hends', -, hblock'⟩ := hstands'
  obtain ⟨behind', after', htext', -, hne', -⟩ := exists_text_of_block hblock' hd hends'
  obtain ⟨hstart, hopening⟩ :=
    drop_of_extractable h (by rw [htext']; exact List.append_ne_nil_of_left_ne_nil hne' _)
  by_contra hlt
  -- otherwise the closing brace would be one of the characters of the opening
  have hbrace : text.drop (t.stop - 1) = '\x7d' :: after := by
    have hextent : t.stop - 1 = t.name.start + (t.name.text.toList ++ behind).length := by omega
    rw [hextent, ← List.drop_drop, htext, ← List.append_assoc, List.drop_left]
  obtain ⟨i, hi⟩ : ∃ i, t.stop - 1 = t'.name.start - Extract.opening.length + i :=
    ⟨t.stop - 1 - (t'.name.start - Extract.opening.length), by omega⟩
  rw [hi, ← List.drop_drop, hopening] at hbrace
  obtain ⟨ys, hys, -⟩ := drop_of_append (by omega) hbrace
  exact absurd (List.mem_of_mem_drop (hys ▸ List.mem_cons_self)) (by decide)

end Tables

/-! ### Documents -/

theorem map_value_declared (document : Document) :
    (declared ([document].flatMap definitionsOf)).tables.map (·.value) = tableDeclarations document.definitions := by
  rw [map_value_tables_declared, map_value_flatMap_definitionsOf, List.flatMap_singleton]

/-- A document that can be registered declares tables and enumerations, and no name of a table twice. -/
theorem of_outcome_catalogOf {document : Document} {catalog : Catalog}
    (h : (catalogOf [document]).outcome = .ok catalog) :
    (∀ d ∈ document.definitions, (∃ t, d = .table t) ∨ ∃ e, d = .enumeration e) ∧
      ((tableDeclarations document.definitions).map (·.name.text)).Nodup := by
  have hregistrable := (outcome_catalogOf_eq_ok_iff.1 h).1
  rw [bareDefinitions_eq, registrable_bare_iff, map_value_flatMap_definitionsOf, List.flatMap_singleton] at hregistrable
  exact ⟨hregistrable.declarations, hregistrable.tableNames⟩

theorem analyze_singleton {source : Source} {document : Document} (hparse : parse source = .ok document) :
    analyze [source] = (analyzeDocuments [document]).outcome := by
  have hdocuments : [source].mapM parse = .ok [document] := mapM_eq_ok_iff.2 (.cons hparse .nil)
  exact analyze_eq_of_mapM_parse hdocuments

/-- The extracts of a document are its tables. -/
theorem exists_all_eq {source : Source} {document : Document} (hparse : parse source = .ok document)
    (hkinds : ∀ d ∈ document.definitions, (∃ t, d = .table t) ∨ ∃ e, d = .enumeration e)
    (hseparable : document.Separable) :
    ∃ extract : TableDeclaration → Extract,
      Extract.all source.body.toList = (tableDeclarations document.definitions).map extract ∧
        ∀ t ∈ tableDeclarations document.definitions, (extract t).IsTable source.body.toList t := by
  obtain ⟨htables, honly⟩ := hseparable
  rw [(reads_of_parse hparse).1] at htables honly
  obtain ⟨hstand, horder⟩ := tables_of_parse hparse hkinds fun t ht => (htables t ht).fields
  have : Nonempty Extract := ⟨⟨[], [], []⟩⟩
  choose! extract hextract using fun t ht => exists_isTable (htables t ht) (hstand t ht)
  let piece := fun t : TableDeclaration => (t.name.start - Extract.opening.length, extract t)
  have hat : ∀ p ∈ (tableDeclarations document.definitions).map piece,
      Extract.at? (source.body.toList.drop p.1) = some p.2 :=
    List.forall_mem_map.2 fun t ht => (hextract t ht).found
  have hstop : ∀ t ∈ tableDeclarations document.definitions, (piece t).1 + (piece t).2.chars.length = t.stop :=
    fun t ht => (hextract t ht).stop
  have hbehind : ((tableDeclarations document.definitions).map piece).Pairwise
      fun p q => p.1 + p.2.chars.length ≤ q.1 := by
    rw [List.pairwise_map]
    refine horder.imp_of_mem fun {t t'} ht ht' hle => ?_
    rw [hstop t ht]
    exact stop_le_of_extractable (hstand t ht) (htables t' ht') (hstand t' ht') hle
  have hinside : ∀ p, 0 ≤ p → Extract.at? (source.body.toList.drop p) ≠ none →
      ∃ q ∈ (tableDeclarations document.definitions).map piece, q.1 ≤ p ∧ p < q.1 + q.2.chars.length := by
    intro p _ hp
    have hlength : p < source.body.toList.length := by
      by_contra hlt
      rw [List.drop_eq_nil_of_le (by omega)] at hp
      exact hp rfl
    obtain ⟨t, ht, hle, hlt⟩ := honly p hlength hp
    exact ⟨piece t, List.mem_map_of_mem ht, Nat.sub_le_iff_le_add.2 hle, hstop t ht ▸ hlt⟩
  have hall := Extract.all_drop_eq hat hbehind (fun _ _ => Nat.zero_le _) hinside
  rw [List.drop_zero, List.map_map] at hall
  exact ⟨extract, hall, hextract⟩

/-- What is cut out of a document stands under the names of its tables, and each text read on its own is its table. -/
theorem exists_splitTables_eq {source : Source} {document : Document} (hparse : parse source = .ok document)
    (hkinds : ∀ d ∈ document.definitions, (∃ t, d = .table t) ∨ ∃ e, d = .enumeration e)
    (hnodup : ((tableDeclarations document.definitions).map (·.name.text)).Nodup) (hseparable : document.Separable) :
    ∃ piece : TableDeclaration → String,
      splitTables source.body = (tableDeclarations document.definitions).map (fun t => (t.name.text, piece t)) ∧
        ∀ t ∈ tableDeclarations document.definitions, ∀ source' : Source, source'.body = piece t →
          ∃ t', parse source' = .ok ⟨source', [.table t']⟩ ∧ t'.bare = t.bare := by
  obtain ⟨extract, hall, hextract⟩ := exists_all_eq hparse hkinds hseparable
  refine ⟨fun t => String.ofList (extract t).chars, ?_, fun t ht source' hsource' => ?_⟩
  · have hentries : (Extract.all source.body.toList).map Extract.entry =
        (tableDeclarations document.definitions).map fun t => (t.name.text, String.ofList (extract t).chars) := by
      rw [hall, List.map_map]
      refine List.map_congr_left fun t ht => ?_
      show (String.ofList (extract t).name, String.ofList (extract t).chars) = _
      rw [(hextract t ht).name]
    rw [splitTables, hentries, Dictionary.ofList_eq_self]
    rw [List.map_map]
    exact hnodup
  · exact (hextract t ht).parse source' (by rw [hsource', String.toList_ofList])

/-- Whether cutting a text up gives the tables of a schema: texts under their names, in their order, each of which is,
parsed on its own, a single declaration that resolves to its table. -/
structure SplitsInto (catalog : Catalog) (text : String) (schema : Schema) : Prop where
  names : (splitTables text).map (·.1) = schema.tables.map (·.name)
  tables : ∀ table ∈ schema.tables, ∃ piece, Dictionary.find? table.name (splitTables text) = some piece ∧
    ∀ source : Source, source.body = piece →
      ∃ t, parse source = .ok ⟨source, [.table t]⟩ ∧ resolveTable catalog t = .ok table

/-- Cutting up an accepted document with separable tables loses, invents and alters no table: the pieces are the tables
of its schema, against the catalog of the whole document. -/
theorem splitsInto_of_separable {source : Source} {document : Document} {schema : Schema}
    (hparse : parse source = .ok document) (hschema : analyze [source] = .ok schema)
    (hseparable : document.Separable) :
    ∃ catalog, (catalogOf [document]).outcome = .ok catalog ∧ SplitsInto catalog source.body schema := by
  rw [analyze_singleton hparse, analyzeDocuments, Run.outcome_bind] at hschema
  obtain ⟨catalog, hcatalog, hresolves⟩ := bind_eq_ok_iff.1 hschema
  rw [outcome_schemaOf_eq_ok_iff] at hresolves
  have htables : catalog.tables.map (·.value) = tableDeclarations document.definitions := by
    rw [(outcome_catalogOf_eq_ok_iff.1 hcatalog).2, map_value_declared]
  have hnames : (tableDeclarations document.definitions).map (·.name.text) = schema.tables.map (·.name) := by
    rw [hresolves.tableNames_eq, ← htables, List.map_map]
    rfl
  obtain ⟨hkinds, hnodup⟩ := of_outcome_catalogOf hcatalog
  obtain ⟨piece, hsplit, hparses⟩ := exists_splitTables_eq hparse hkinds hnodup hseparable
  refine ⟨catalog, hcatalog, ?_, fun table htable => ?_⟩
  · rw [hsplit, List.map_map, ← hnames]
    rfl
  obtain ⟨⟨source', t⟩, ht, hresolve⟩ := exists_of_forall₂_of_mem hresolves.tables htable
  have ht : t ∈ tableDeclarations document.definitions := htables ▸ List.mem_map_of_mem ht
  have hname : table.name = t.name.text := (resolveTable_eq_ok_iff.1 hresolve).1
  refine ⟨piece t, ?_, fun source' hsource' => ?_⟩
  · have hkeys : (((tableDeclarations document.definitions).map fun t => (t.name.text, piece t)).map (·.1)).Nodup := by
      rw [List.map_map]
      exact hnodup
    have hfind := (find?_eq_some_iff_of_nodup hkeys).2 ⟨List.mem_map_of_mem ht, rfl⟩
    rw [hsplit, hname, Dictionary.find?, hfind]
    rfl
  · obtain ⟨t', hparse', hbare⟩ := hparses t ht source' hsource'
    rw [← resolveTable_bare_eq_ok_iff, ← hbare, resolveTable_bare_eq_ok_iff] at hresolve
    exact ⟨t', hparse', hresolve⟩

/-- A document with an enumeration, a table that has a description and a comment before its block, and one that has
tags and, in the description of its field, what looks like the beginning of another table. -/
theorem splitsInto_of_separable_two_tables :
    ∃ source document schema, parse source = .ok document ∧ analyze [source] = .ok schema ∧ document.Separable ∧
      ∃ catalog, (catalogOf [document]).outcome = .ok catalog ∧ SplitsInto catalog source.body schema := by
  let source := Source.numbered 1 ("enum E @indexing(first: 1) \x7bx\x7d # type\n\"type\" type A # \x7b\n\x7b e: E \x7d"
    ++ "type B @tags(list: [\"t\"]) \x7b \"type C \x7b\" a: A \x7d")
  have hseparable : (parse source).toOption.any (fun d => decide d.Separable) = true := by decide +kernel
  have hanalyze : (analyze [source]).toOption.isSome = true := by decide +kernel
  cases hparse : parse source with
  | error e =>
    rw [hparse] at hseparable
    cases hseparable
  | ok document =>
    cases hschema : analyze [source] with
    | error failure =>
      rw [hschema] at hanalyze
      cases hanalyze
    | ok schema =>
      rw [hparse] at hseparable
      have hseparable : document.Separable := of_decide_eq_true hseparable
      exact ⟨source, document, schema, hparse, hschema, hseparable, splitsInto_of_separable hparse hschema hseparable⟩

/-- Whether cutting up a source, if it has a schema, gives the tables of that schema. -/
def SplitAgrees (source : Source) : Prop :=
  ∀ document schema, parse source = .ok document → analyze [source] = .ok schema →
    ∃ catalog, (catalogOf [document]).outcome = .ok catalog ∧ SplitsInto catalog source.body schema

theorem not_splitAgrees_of_not_splitsInto {source : Source} {schema : Schema} (hschema : analyze [source] = .ok schema)
    (h : ∀ catalog, ¬ SplitsInto catalog source.body schema) : ¬ SplitAgrees source := by
  intro hagrees
  obtain ⟨documents, hdocuments, -⟩ := bind_eq_ok_iff.1 (analyze_eq_bind [source] ▸ hschema)
  obtain ⟨document, -, hparse, -, -⟩ := List.forall₂_cons_left_iff.1 (mapM_eq_ok_iff.1 hdocuments)
  obtain ⟨catalog, -, hsplits⟩ := hagrees document schema (mapError_eq_ok_iff.1 hparse) hschema
  exact h catalog hsplits

/-- Without separable tables a table can get lost: it has no block, or more than one space before its name; it can be
cut off in a string; and text in a comment can be taken for a table. -/
theorem not_splitAgrees :
    ¬ SplitAgrees (.numbered 1 "type A") ∧ ¬ SplitAgrees (.numbered 1 "type  A \x7b x: i32 \x7d") ∧
      ¬ SplitAgrees (.numbered 1 "type A \x7b \"\x7d\" x: i32 \x7d") ∧
        ¬ SplitAgrees (.numbered 1 "# type B \x7b\x7d\ntype A \x7b x: i32 \x7d") := by
  let x : Column := ⟨some "x", none, false, .scalar .i32, false, false, none, none, none⟩
  let described : Column := ⟨some "x", some "\x7d", false, .scalar .i32, false, false, none, none, none⟩
  have hempty : analyze [.numbered 1 "type A"] = .ok ⟨[⟨"A", [], []⟩], []⟩ := by decide +kernel
  have hspaces : analyze [.numbered 1 "type  A \x7b x: i32 \x7d"] = .ok ⟨[⟨"A", [], [x]⟩], []⟩ := by decide +kernel
  have hstring : analyze [.numbered 1 "type A \x7b \"\x7d\" x: i32 \x7d"] = .ok ⟨[⟨"A", [], [described]⟩], []⟩ := by
    decide +kernel
  have hcomment : analyze [.numbered 1 "# type B \x7b\x7d\ntype A \x7b x: i32 \x7d"] = .ok ⟨[⟨"A", [], [x]⟩], []⟩ := by
    decide +kernel
  refine ⟨not_splitAgrees_of_not_splitsInto hempty fun _ h => absurd h.names (by decide +kernel),
    not_splitAgrees_of_not_splitsInto hspaces fun _ h => absurd h.names (by decide +kernel),
    not_splitAgrees_of_not_splitsInto hstring fun _ h => ?_,
    not_splitAgrees_of_not_splitsInto hcomment fun _ h => absurd h.names (by decide +kernel)⟩
  -- the table is there, but its text ends in the string
  obtain ⟨piece, hpiece, hparse⟩ := h.tables _ (.head _)
  have hfound : Dictionary.find? "A" (splitTables "type A \x7b \"\x7d\" x: i32 \x7d") =
      some "type A \x7b \"\x7d" := by decide +kernel
  obtain rfl := Option.some.inj (hpiece.symm.trans hfound)
  obtain ⟨t, ht, -⟩ := hparse (.numbered 1 _) rfl
  have hnone : (parse (.numbered 1 "type A \x7b \"\x7d")).toOption = none := by decide +kernel
  rw [ht] at hnone
  cases hnone

end TableSchema
