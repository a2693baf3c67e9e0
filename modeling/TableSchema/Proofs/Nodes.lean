import TableSchema.Proofs.SelfCheck

/-!
# Where a violation shows

A report points at nodes of the definition that it is about.

* (nodes) `Definition.nodes` lists the nodes of a definition at which a report can point;
* (violations) one lemma for each list of violations says that they show at nodes of what is looked at
  (`Problem.ShowsAt`, `Fault.ShowsAt`), from single values (`textViolations_showsAt`) up to tables and enumerations
  (`mem_tableViolations`, `mem_enumerationViolations`).  Only the target of a reference shows elsewhere too
  (`FieldDeclaration.HasUnfitTarget`), and an integer that is too long is only there (`Directive.HoldsTooLong`);
* (definitions) `violationsOf` is what is wrong with one definition, and `mem_violationsBehind_iff` says that everything
  that is wrong with definitions behind others is wrong with one of them.

Main statement: a violation stands in the definition that it is found at (`standsIn_of_mem_violationsOf`).
-/

namespace TableSchema

open Syntax Analysis

/-! ### Nodes -/

/-- The nodes of an argument: its own, its name, its value, and the items if this is a list. -/
def Syntax.Argument.nodes (a : Argument) : List Node :=
  a.node :: a.name.node :: a.value.node ::
    match a.value with
    | .literal _ => []
    | .list _ items => items.map Literal.node

/-- The nodes of a directive: its own, its name and those of its arguments. -/
def Syntax.Directive.nodes (d : Directive) : List Node :=
  d.node :: d.name.node :: d.arguments.flatMap Argument.nodes

/-- The nodes of a field: its own, its name, its type and those of its directives. -/
def Syntax.FieldDeclaration.nodes (f : FieldDeclaration) : List Node :=
  f.node :: f.name.node :: f.type.node :: f.directives.flatMap Directive.nodes

/-- The nodes of a definition.  Only names are shown of the enumerators. -/
def Syntax.Definition.nodes (d : Definition) : List Node :=
  d.node ::
    match d with
    | .table t => t.name.node :: (t.directives.flatMap Directive.nodes ++ t.fields.flatMap FieldDeclaration.nodes)
    | .enumeration e => e.name.node :: (e.directives.flatMap Directive.nodes ++ e.values.map (·.name.node))
    | .other .. => []

/-- A problem that shows at some of the nodes, and at nothing else. -/
def Problem.ShowsAt (nodes : List Node) (p : Problem) : Prop :=
  p.cause = none ∧ p.nodes ⊆ nodes

/-- A fault that is a problem and shows at some of the nodes. -/
def Fault.ShowsAt (nodes : List Node) (fault : Fault) : Prop :=
  ∃ p, fault = .problem p ∧ p.ShowsAt nodes

section Shows

variable {p : Problem} {fault : Fault} {nodes nodes' : List Node}

theorem nodes_subset_of_eq_singleton {node : Node} (hp : p.nodes = [node]) (h : node ∈ nodes) : p.nodes ⊆ nodes := by
  intro shown hshown
  rw [hp, List.mem_singleton] at hshown
  rwa [hshown]

theorem Problem.ShowsAt.singleton {node : Node} (hcause : p.cause = none) (hp : p.nodes = [node]) (h : node ∈ nodes) :
    p.ShowsAt nodes :=
  ⟨hcause, nodes_subset_of_eq_singleton hp h⟩

theorem Problem.ShowsAt.mono (h : p.ShowsAt nodes) (hsubset : nodes ⊆ nodes') : p.ShowsAt nodes' :=
  ⟨h.1, List.Subset.trans h.2 hsubset⟩

theorem Fault.ShowsAt.singleton {node : Node} (hcause : p.cause = none) (hp : p.nodes = [node]) (h : node ∈ nodes) :
    (Fault.problem p).ShowsAt nodes :=
  ⟨p, rfl, .singleton hcause hp h⟩

theorem Fault.ShowsAt.mono (h : fault.ShowsAt nodes) (hsubset : nodes ⊆ nodes') : fault.ShowsAt nodes' := by
  obtain ⟨p, rfl, hshows⟩ := h
  exact ⟨p, rfl, hshows.mono hsubset⟩

end Shows

/-! ### Directives -/

/-- A directive with an integer of so many digits, which are too many, among its arguments. -/
def Syntax.Directive.HoldsTooLong (count : Nat) (d : Directive) : Prop :=
  Text.maxDigits < count ∧
    ∃ a ∈ d.arguments, ∃ start spelling, a.value = .literal (.int start spelling) ∧ Text.digitCount spelling = count

section Directives

variable {a : Argument} {d : Directive} {fault : Fault}

theorem textViolations_showsAt {v : Literal} {nodes : List Node} (hnode : v.node ∈ nodes)
    (h : fault ∈ textViolations v) : fault.ShowsAt nodes := by
  cases v with
  | string start text => cases h
  | int start n =>
    obtain rfl := List.mem_singleton.1 h
    exact .singleton rfl rfl hnode
  | other start kind =>
    obtain rfl := List.mem_singleton.1 h
    exact .singleton rfl rfl hnode

theorem value_node_mem (a : Argument) : a.value.node ∈ a.nodes := by
  simp [Argument.nodes]

theorem stringViolations_showsAt (h : fault ∈ stringViolations a.value) : fault.ShowsAt a.nodes := by
  have hnode := value_node_mem a
  unfold stringViolations at h
  split at h
  · rename_i v hv
    rw [hv] at hnode
    exact textViolations_showsAt hnode h
  · obtain rfl := List.mem_singleton.1 h
    exact .singleton rfl rfl hnode

theorem stringsViolations_showsAt {expected : Expectation} (h : fault ∈ stringsViolations expected a.value) :
    fault.ShowsAt a.nodes := by
  unfold stringsViolations at h
  split at h
  · rename_i start items hv
    obtain ⟨item, hitem, hfault⟩ := List.mem_flatMap.1 h
    have hmem : item.node ∈ items.map Literal.node := List.mem_map_of_mem hitem
    refine textViolations_showsAt ?_ hfault
    simp [Argument.nodes, hv, hmem]
  · obtain rfl := List.mem_singleton.1 h
    exact .singleton rfl rfl (value_node_mem a)

theorem tagsViolations_showsAt (h : fault ∈ tagsViolations a.value) : fault.ShowsAt a.nodes := by
  unfold tagsViolations at h
  split at h
  · rename_i start hv
    obtain rfl := List.mem_singleton.1 h
    have hnode := value_node_mem a
    rw [hv] at hnode
    exact .singleton rfl rfl hnode
  · exact stringsViolations_showsAt h

theorem mem_indexBaseViolations (h : fault ∈ indexBaseViolations a.value) :
    fault.ShowsAt a.nodes ∨ ∃ start spelling, a.value = .literal (.int start spelling) ∧
      fault = .integerTooLong (Text.digitCount spelling) ∧ Text.maxDigits < Text.digitCount spelling := by
  have hnode := value_node_mem a
  unfold indexBaseViolations at h
  split at h
  · rename_i start spelling hv
    rcases List.mem_append.1 h with h | h
    · unfold integerViolations at h
      split at h
      · rename_i hlong
        exact .inr ⟨start, spelling, hv, List.mem_singleton.1 h, hlong⟩
      · cases h
    · left
      split at h
      · cases h
      · obtain rfl := List.mem_singleton.1 h
        exact .singleton rfl rfl hnode
  · obtain rfl := List.mem_singleton.1 h
    exact .inl (.singleton rfl rfl hnode)

theorem nodes_subset_of_mem_arguments (h : a ∈ d.arguments) : a.nodes ⊆ d.nodes := by
  intro node hnode
  have hmem : node ∈ d.arguments.flatMap Argument.nodes := List.mem_flatMap.2 ⟨a, h, hnode⟩
  simp [Directive.nodes, hmem]

theorem mem_singleViolations {parameter : Parameter} {name : String} {find : Value → List Fault}
    (h : fault ∈ singleViolations d parameter name find) :
    fault.ShowsAt d.nodes ∨ ∃ a ∈ d.arguments, fault ∈ find a.value := by
  unfold singleViolations at h
  split at h
  · obtain rfl := List.mem_singleton.1 h
    exact .inl (.singleton rfl rfl List.mem_cons_self)
  · obtain ⟨earlier, a, later, heq, hfault⟩ := mem_inOrder_iff.1 h
    have ha : a ∈ d.arguments := by simp [heq]
    have hname : a.name.node ∈ d.nodes := nodes_subset_of_mem_arguments ha (by simp [Argument.nodes])
    unfold argumentViolations at hfault
    split at hfault
    · obtain rfl := List.mem_singleton.1 hfault
      exact .inl (.singleton rfl rfl hname)
    · split at hfault
      · obtain rfl := List.mem_singleton.1 hfault
        exact .inl (.singleton rfl rfl hname)
      · exact .inr ⟨a, ha, hfault⟩

theorem singleViolations_showsAt {parameter : Parameter} {name : String} {find : Value → List Fault}
    (hfind : ∀ a : Argument, ∀ fault ∈ find a.value, fault.ShowsAt a.nodes)
    (h : fault ∈ singleViolations d parameter name find) : fault.ShowsAt d.nodes := by
  rcases mem_singleViolations h with hshows | ⟨a, ha, hfault⟩
  · exact hshows
  · exact (hfind a fault hfault).mono (nodes_subset_of_mem_arguments ha)

theorem refusedViolations_showsAt (h : fault ∈ refusedViolations d) : fault.ShowsAt d.nodes := by
  unfold refusedViolations at h
  split at h
  · cases h
  · rename_i first others heq
    obtain rfl := List.mem_singleton.1 h
    refine ⟨_, rfl, rfl, fun node hnode => ?_⟩
    obtain ⟨a, ha, rfl⟩ : ∃ a ∈ d.arguments, a.node = node := by
      rw [heq]
      exact List.mem_map.1 hnode
    exact nodes_subset_of_mem_arguments ha List.mem_cons_self

/-- What is wrong with a directive shows in it, except for the length of an integer. -/
theorem mem_directiveViolations {site : Site} (h : fault ∈ directiveViolations site d) :
    fault.ShowsAt d.nodes ∨
      ∃ count, fault = .integerTooLong count ∧ .indexing ∈ site.legal ∧ d.HoldsTooLong count := by
  unfold directiveViolations at h
  split at h
  · obtain rfl := List.mem_singleton.1 h
    have hname : d.name.node ∈ d.nodes := by simp [Directive.nodes]
    exact .inl (.singleton rfl rfl hname)
  · rename_i kind hkind
    cases kind with
    | ref => exact .inl (singleViolations_showsAt (fun _ _ => stringViolations_showsAt) h)
    | unique => exact .inl (refusedViolations_showsAt h)
    | localized => exact .inl (refusedViolations_showsAt h)
    | file => exact .inl (singleViolations_showsAt (fun _ _ => stringViolations_showsAt) h)
    | files => exact .inl (singleViolations_showsAt (fun _ _ => stringsViolations_showsAt) h)
    | indexing =>
      rcases mem_singleViolations h with hshows | ⟨a, ha, hfault⟩
      · exact .inl hshows
      · rcases mem_indexBaseViolations hfault with hshows | ⟨start, spelling, hvalue, rfl, hlong⟩
        · exact .inl (hshows.mono (nodes_subset_of_mem_arguments ha))
        · exact .inr ⟨_, rfl, (Site.kind?_eq_some_iff.1 hkind).1, hlong, a, ha, start, spelling, hvalue, rfl⟩
    | tags => exact .inl (singleViolations_showsAt (fun _ _ => tagsViolations_showsAt) h)

theorem mem_flatMap_directiveViolations {site : Site} {directives : List Directive}
    (h : fault ∈ directives.flatMap (directiveViolations site)) :
    fault.ShowsAt (directives.flatMap Directive.nodes) ∨
      ∃ count, fault = .integerTooLong count ∧ .indexing ∈ site.legal ∧ ∃ d ∈ directives, d.HoldsTooLong count := by
  obtain ⟨d, hd, hfault⟩ := List.mem_flatMap.1 h
  rcases mem_directiveViolations hfault with hshows | ⟨count, hcount, hlegal, hholds⟩
  · exact .inl (hshows.mono fun node hnode => List.mem_flatMap.2 ⟨d, hd, hnode⟩)
  · exact .inr ⟨count, hcount, hlegal, d, hd, hholds⟩

/-- Where no integer is read, everything that is wrong with directives shows in them. -/
theorem flatMap_directiveViolations_showsAt {site : Site} (hsite : .indexing ∉ site.legal)
    {directives : List Directive} (h : fault ∈ directives.flatMap (directiveViolations site)) :
    fault.ShowsAt (directives.flatMap Directive.nodes) := by
  rcases mem_flatMap_directiveViolations h with hshows | ⟨_, -, hlegal, -⟩
  · exact hshows
  · exact absurd hlegal hsite

end Directives

/-! ### Fields -/

section Fields

variable {catalog : Catalog} {table : String} {field : FieldDeclaration} {p : Problem}

theorem node_of_declaredType_eq_error {type : TypeExpr} {problem : TypeProblem}
    (h : declaredType type = .error problem) : problem.node = type.node := by
  unfold declaredType at h
  split at h
  · split at h
    · cases h
      rfl
    · cases h
  · cases h
  · cases h
    rfl

theorem typeViolations_showsAt {type : TypeExpr} (h : p ∈ typeViolations catalog table type) :
    p.ShowsAt [type.node] := by
  unfold typeViolations at h
  cases hd : declaredType type with
  | error problem =>
    rw [hd] at h
    obtain rfl := List.mem_singleton.1 h
    exact .singleton rfl rfl (List.mem_singleton.2 (node_of_declaredType_eq_error hd))
  | ok declared =>
    rw [hd] at h
    dsimp only at h
    split at h
    · cases h
    · obtain rfl := List.mem_singleton.1 h
      exact .singleton rfl rfl List.mem_cons_self

theorem mem_of_reference?_eq_some {directives : List Directive} {directive : Directive} {column : String}
    (h : reference? directives = some (directive, column)) :
    directive ∈ directives ∧ directive.name.text = MarkKind.ref.name := by
  obtain ⟨d, hd, hcolumn⟩ := Option.bind_eq_some_iff.1 h
  obtain ⟨_, -, heq⟩ := Option.map_eq_some_iff.1 hcolumn
  cases heq
  exact ⟨List.mem_of_find?_eq_some hd, by simpa using List.find?_some hd⟩

/-- The reference of a field has a target that is there and that is not fit, which is the problem. -/
def Syntax.FieldDeclaration.HasUnfitTarget (catalog : Catalog) (table : String) (field : FieldDeclaration)
    (p : Problem) : Prop :=
  ∃ directive column c name target found cause,
    reference? field.directives = some (directive, column) ∧ classify catalog table field.type = .ok c ∧
      c.target = some name ∧ catalog.table? name = some target ∧
      target.value.fields.find? (·.name.text = column) = some found ∧ cause ∈ targetViolations found ∧
      p = .invalidTarget directive target.source cause

/-- A field with a reference directive and a type that refers to nothing, whatever else is wrong with it. -/
def Syntax.FieldDeclaration.RefersToNothing (table : String) (field : FieldDeclaration) : Prop :=
  (∃ directive ∈ field.directives, directive.name.text = MarkKind.ref.name) ∧
    ∃ array name, field.type.Declares array name ∧ name ∈ reservedNames ∧ name ≠ table

/-- What is wrong with the reference of a field: there is nothing to refer to, or the column is not there, or it is not
fit. -/
theorem mem_refViolations {fault : Fault} (h : fault ∈ refViolations catalog table field) :
    (fault = .refWithoutTable field.name.text ∧ field.RefersToNothing table) ∨
      ∃ p, fault = .problem p ∧
        (p.ShowsAt (field.directives.flatMap Directive.nodes) ∨ field.HasUnfitTarget catalog table p) := by
  unfold refViolations at h
  split at h
  · rename_i directive column c href hc
    have hdirective := mem_of_reference?_eq_some href
    split at h
    · rename_i hnone
      obtain rfl := List.mem_singleton.1 h
      exact .inl ⟨rfl, ⟨directive, hdirective⟩, exists_classify_eq_ok_none_iff.1 ⟨c, hc, hnone⟩⟩
    · rename_i name htarget
      obtain ⟨p, hp, rfl⟩ := List.mem_map.1 h
      refine .inr ⟨p, rfl, ?_⟩
      have hnotFound : Problem.ShowsAt (field.directives.flatMap Directive.nodes)
          (.columnNotFound directive name column) :=
        .singleton rfl rfl (List.mem_flatMap.2 ⟨directive, hdirective.1, List.mem_cons_self⟩)
      unfold columnViolations at hp
      split at hp
      · obtain rfl := List.mem_singleton.1 hp
        exact .inl hnotFound
      · rename_i target ht
        split at hp
        · obtain rfl := List.mem_singleton.1 hp
          exact .inl hnotFound
        · rename_i found hfound
          obtain ⟨cause, hcause, rfl⟩ := List.mem_map.1 hp
          exact .inr ⟨directive, column, c, name, target, found, cause, href, hc, htarget, ht, hfound, hcause, rfl⟩
  · cases h

theorem Syntax.FieldDeclaration.HasUnfitTarget.nodes_subset (h : field.HasUnfitTarget catalog table p) :
    p.nodes ⊆ field.nodes := by
  obtain ⟨directive, column, c, name, target, found, cause, href, -, -, -, -, -, rfl⟩ := h
  have hmem : directive.node ∈ field.directives.flatMap Directive.nodes :=
    List.mem_flatMap.2 ⟨directive, (mem_of_reference?_eq_some href).1, List.mem_cons_self⟩
  refine nodes_subset_of_eq_singleton rfl ?_
  simp [FieldDeclaration.nodes, hmem]

theorem mem_fieldViolations {fault : Fault} (h : fault ∈ fieldViolations catalog table field) :
    (fault = .refWithoutTable field.name.text ∧ field.RefersToNothing table) ∨
      ∃ p, fault = .problem p ∧ (p.ShowsAt field.nodes ∨ field.HasUnfitTarget catalog table p) := by
  have hdirectives : field.directives.flatMap Directive.nodes ⊆ field.nodes := by
    intro node hnode
    simp [FieldDeclaration.nodes, hnode]
  have htype : [field.type.node] ⊆ field.nodes := by
    simp [FieldDeclaration.nodes]
  unfold fieldViolations at h
  rcases List.mem_append.1 h with h | h
  · obtain ⟨p, rfl, hshows⟩ := flatMap_directiveViolations_showsAt (by decide) h
    exact .inr ⟨p, rfl, .inl (hshows.mono hdirectives)⟩
  rcases List.mem_append.1 h with h | h
  · obtain ⟨p, hp, rfl⟩ := List.mem_map.1 h
    exact .inr ⟨p, rfl, .inl ((typeViolations_showsAt hp).mono htype)⟩
  · obtain hnothing | ⟨p, rfl, hshows | hunfit⟩ := mem_refViolations h
    · exact .inl hnothing
    · exact .inr ⟨p, rfl, .inl (hshows.mono hdirectives)⟩
    · exact .inr ⟨p, rfl, .inr hunfit⟩

end Fields

/-! ### Tables and enumerations -/

section Parts

variable {catalog : Catalog}

theorem eq_of_mem_repetition {α κ β : Type} [DecidableEq κ] {key : α → Option κ} {report : α → β} {before : List α}
    {a : α} {b : β} (h : b ∈ repetition key report before a) : b = report a := by
  unfold repetition at h
  split at h
  · exact List.mem_singleton.1 h
  · cases h

theorem nodes_subset_of_mem_fields {t : TableDeclaration} {field : FieldDeclaration} (h : field ∈ t.fields) :
    field.nodes ⊆ (Definition.table t).nodes := by
  intro node hnode
  have hmem : node ∈ t.fields.flatMap FieldDeclaration.nodes := List.mem_flatMap.2 ⟨field, h, hnode⟩
  simp [Definition.nodes, hmem]

/-- What is wrong with a table shows in it, except that one of its fields may refer to nothing or to a column that is
not fit. -/
theorem mem_tableViolations {t : TableDeclaration} {fault : Fault} (h : fault ∈ tableViolations catalog t) :
    (∃ field ∈ t.fields, fault = .refWithoutTable field.name.text ∧ field.RefersToNothing t.name.text) ∨
      ∃ p, fault = .problem p ∧
        (p.ShowsAt (Definition.table t).nodes ∨ ∃ field ∈ t.fields, field.HasUnfitTarget catalog t.name.text p) := by
  have hdirectives : t.directives.flatMap Directive.nodes ⊆ (Definition.table t).nodes := by
    intro node hnode
    simp [Definition.nodes, hnode]
  unfold tableViolations at h
  rcases List.mem_append.1 h with h | h
  · obtain ⟨p, rfl, hshows⟩ := flatMap_directiveViolations_showsAt (by decide) h
    exact .inr ⟨p, rfl, .inl (hshows.mono hdirectives)⟩
  obtain ⟨earlier, field, later, hfields, hfault⟩ := mem_inOrder_iff.1 h
  have hfield : field ∈ t.fields := by simp [hfields]
  have hnodes := nodes_subset_of_mem_fields hfield
  rcases List.mem_append.1 hfault with hfault | hfault
  · obtain hnothing | ⟨p, rfl, hshows | hunfit⟩ := mem_fieldViolations hfault
    · exact .inl ⟨field, hfield, hnothing⟩
    · exact .inr ⟨p, rfl, .inl (hshows.mono hnodes)⟩
    · exact .inr ⟨p, rfl, .inr ⟨field, hfield, hunfit⟩⟩
  · have hrepeated := eq_of_mem_repetition hfault
    have hname : field.name.node ∈ field.nodes := by simp [FieldDeclaration.nodes]
    exact .inr ⟨_, hrepeated, .inl (.singleton rfl rfl (hnodes hname))⟩

/-- What is wrong with an enumeration shows in it, except for the length of an integer. -/
theorem mem_enumerationViolations {e : EnumerationDeclaration} {fault : Fault} (h : fault ∈ enumerationViolations e) :
    fault.ShowsAt (Definition.enumeration e).nodes ∨
      ∃ count, fault = .integerTooLong count ∧ ∃ d ∈ e.directives, d.HoldsTooLong count := by
  have hdirectives : e.directives.flatMap Directive.nodes ⊆ (Definition.enumeration e).nodes := by
    intro node hnode
    simp [Definition.nodes, hnode]
  unfold enumerationViolations at h
  rcases List.mem_append.1 h with h | h
  · rcases mem_flatMap_directiveViolations h with hshows | ⟨count, hcount, -, hholds⟩
    · exact .inl (hshows.mono hdirectives)
    · exact .inr ⟨count, hcount, hholds⟩
  left
  rcases List.mem_append.1 h with h | h
  · split at h
    · cases h
    · obtain rfl := List.mem_singleton.1 h
      exact .singleton rfl rfl List.mem_cons_self
  · obtain ⟨p, hp, rfl⟩ := List.mem_map.1 h
    obtain ⟨earlier, value, later, hvalues, hp⟩ := mem_inOrder_iff.1 hp
    have hrepeated := eq_of_mem_repetition hp
    subst hrepeated
    have hmem : value.name.node ∈ e.values.map (·.name.node) := List.mem_map.2 ⟨value, by simp [hvalues], rfl⟩
    refine .singleton rfl rfl ?_
    simp only [Definition.nodes, List.mem_cons, List.mem_append]
    exact .inr (.inr (.inr hmem))

theorem definitionViolations_showsAt {before : List (Sourced Definition)} {d : Sourced Definition} {p : Problem}
    (h : p ∈ definitionViolations before d) : p.ShowsAt d.value.nodes := by
  unfold definitionViolations at h
  split at h
  · rename_i t hd
    split at h
    · obtain rfl := List.mem_singleton.1 h
      rw [hd]
      exact .singleton rfl rfl (.tail _ (.head _))
    · cases h
  · rename_i e hd
    split at h
    · obtain rfl := List.mem_singleton.1 h
      rw [hd]
      exact .singleton rfl rfl (.tail _ (.head _))
    · cases h
  · obtain rfl := List.mem_singleton.1 h
    exact .singleton rfl rfl List.mem_cons_self

end Parts

/-! ### Definitions -/

/-- What is wrong with a definition behind others, against a catalog. -/
def violationsOf (catalog : Catalog) (before : List (Sourced Definition)) (d : Sourced Definition) : List Failure :=
  (definitionViolations before d).map (.problem d.source) ++
    match d.value with
    | .table t => (tableViolations catalog t).map (·.inSource d.source)
    | .enumeration e => (enumerationViolations e).map (·.inSource d.source)
    | .other .. => []

/-- What is wrong with definitions behind others, in the order in which it counts. -/
def violationsBehind (before definitions : List (Sourced Definition)) : List Failure :=
  let catalog := declared (before ++ definitions)
  inOrder (fun before d => (definitionViolations before d).map (.problem d.source)) before definitions
    ++ ((declared definitions).tables.flatMap (fun t => (tableViolations catalog t.value).map (·.inSource t.source))
      ++ (declared definitions).enumerations.flatMap fun e =>
        (enumerationViolations e.value).map (·.inSource e.source))

theorem documentViolations_eq (documents : List Document) :
    documentViolations documents = violationsBehind [] (documents.flatMap definitionsOf) := rfl

theorem mem_violationsBehind_iff {before definitions : List (Sourced Definition)} {failure : Failure} :
    failure ∈ violationsBehind before definitions ↔
      ∃ earlier d later, definitions = earlier ++ d :: later ∧
        failure ∈ violationsOf (declared (before ++ definitions)) (before ++ earlier) d := by
  simp only [violationsBehind, violationsOf, List.mem_append, mem_inOrder_iff, List.mem_flatMap]
  constructor
  -- A table or an enumeration of the catalog is one of the definitions, wherever it stands among them.
  · rintro (⟨earlier, d, later, heq, hmem⟩ | ⟨t, ht, hmem⟩ | ⟨e, he, hmem⟩)
    · exact ⟨earlier, d, later, heq, .inl hmem⟩
    · obtain ⟨earlier, later, heq⟩ := List.append_of_mem (mem_tables_declared.1 ht)
      exact ⟨earlier, _, later, heq, .inr hmem⟩
    · obtain ⟨earlier, later, heq⟩ := List.append_of_mem (mem_enumerations_declared.1 he)
      exact ⟨earlier, _, later, heq, .inr hmem⟩
  · rintro ⟨earlier, ⟨source, definition⟩, later, heq, hmem | hmem⟩
    · exact .inl ⟨earlier, _, later, heq, hmem⟩
    · have hd : (⟨source, definition⟩ : Sourced Definition) ∈ definitions := by simp [heq]
      cases definition with
      | table t => exact .inr (.inl ⟨⟨source, t⟩, mem_tables_declared.2 hd, hmem⟩)
      | enumeration e => exact .inr (.inr ⟨⟨source, e⟩, mem_enumerations_declared.2 hd, hmem⟩)
      | other kind name start stop => cases hmem

/-- What is wrong with a definition is told of its source and shows in it, except that a field may refer to nothing or
to a column that is not fit, and that a directive may hold an integer that is too long. -/
theorem mem_violationsOf {catalog : Catalog} {before : List (Sourced Definition)} {d : Sourced Definition}
    {failure : Failure} (h : failure ∈ violationsOf catalog before d) :
    (∃ p, failure = .problem d.source p ∧ p.ShowsAt d.value.nodes) ∨
      (∃ t, d.value = .table t ∧ ∃ field ∈ t.fields,
        (failure = .refWithoutTable field.name.text ∧ field.RefersToNothing t.name.text) ∨
          ∃ p, failure = .problem d.source p ∧ field.HasUnfitTarget catalog t.name.text p) ∨
      ∃ e, d.value = .enumeration e ∧ ∃ count, failure = .integerTooLong count ∧
        ∃ directive ∈ e.directives, directive.HoldsTooLong count := by
  unfold violationsOf at h
  rcases List.mem_append.1 h with h | h
  · obtain ⟨p, hp, rfl⟩ := List.mem_map.1 h
    exact .inl ⟨p, rfl, definitionViolations_showsAt hp⟩
  obtain ⟨source, definition⟩ := d
  cases definition with
  | table t =>
    obtain ⟨fault, hfault, rfl⟩ := List.mem_map.1 h
    obtain ⟨field, hfield, rfl, hnothing⟩ | ⟨p, rfl, hshows | ⟨field, hfield, hunfit⟩⟩ := mem_tableViolations hfault
    · exact .inr (.inl ⟨t, rfl, field, hfield, .inl ⟨rfl, hnothing⟩⟩)
    · exact .inl ⟨p, rfl, hshows⟩
    · exact .inr (.inl ⟨t, rfl, field, hfield, .inr ⟨p, rfl, hunfit⟩⟩)
  | enumeration e =>
    obtain ⟨fault, hfault, rfl⟩ := List.mem_map.1 h
    obtain ⟨p, rfl, hshows⟩ | ⟨count, rfl, hholds⟩ := mem_enumerationViolations hfault
    · exact .inl ⟨p, rfl, hshows⟩
    · exact .inr (.inr ⟨e, rfl, count, rfl, hholds⟩)
  | other kind name start stop => cases h

/-- A failure is about a definition: it is told of its source and shows at nodes of it, or it is a field of it that
refers to nothing, or an integer in it that is too long. -/
def Failure.StandsIn (d : Sourced Definition) : Failure → Prop
  | .problem source p => source = d.source ∧ p.nodes ⊆ d.value.nodes
  | .refWithoutTable name =>
    ∃ t, d.value = .table t ∧ ∃ field ∈ t.fields, field.name.text = name ∧ field.RefersToNothing t.name.text
  | .integerTooLong count =>
    ∃ e, d.value = .enumeration e ∧ ∃ directive ∈ e.directives, directive.HoldsTooLong count
  | .syntaxError .. => False

/-- What is wrong with a definition stands in it. -/
theorem standsIn_of_mem_violationsOf {catalog : Catalog} {before : List (Sourced Definition)} {d : Sourced Definition}
    {failure : Failure} (h : failure ∈ violationsOf catalog before d) : failure.StandsIn d := by
  obtain ⟨p, rfl, hshows⟩ | ⟨t, ht, field, hfield, ⟨rfl, hnothing⟩ | ⟨p, rfl, hunfit⟩⟩ | ⟨e, he, count, rfl, hholds⟩ :=
    mem_violationsOf h
  · exact ⟨rfl, hshows.2⟩
  · exact ⟨t, ht, field, hfield, rfl, hnothing⟩
  · refine ⟨rfl, ?_⟩
    rw [ht]
    exact List.Subset.trans hunfit.nodes_subset (nodes_subset_of_mem_fields hfield)
  · exact ⟨e, he, hholds⟩

end TableSchema
