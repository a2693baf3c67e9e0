import TableSchema.Command
import TableSchema.Proofs.DiskChanges
import TableSchema.Proofs.FirstFinding

/-!
# Commands agree

Checking, showing and exporting load their schema in one way (`run_loadSchema`), so they end alike: with exit code 0 if
the paths yield a schema, and with 1 otherwise.  They change no file, and an export into a file changes at most this
file, and only if there is a schema.

Main statement: `commands_agree`, for every command line that asks for one of these tasks.  Every list of paths can be
asked for (`Spells`), unless one of them holds a null character: then the command line is refused, with exit code 2
(`exitCode_check_null_character`).
-/

namespace TableSchema.Command

open Files Syntax

/-! ### Loading a schema -/

/-- Paths, or the configured directory in the stead of none, hold sources, and these are analysed into a schema. -/
def Yields (settings : Settings) (d : Disk) (paths : List Path) (schema : Schema) : Prop :=
  ∃ sources, loadSources d settings.filePattern (pathsOr settings paths) = .ok sources ∧ sources ≠ [] ∧
    analyze sources = .ok schema

theorem yields_iff {settings : Settings} {d : Disk} {paths : List Path} {sources : List Source} {schema : Schema}
    (hload : loadSources d settings.filePattern (pathsOr settings paths) = .ok sources) :
    Yields settings d paths schema ↔ sources ≠ [] ∧ analyze sources = .ok schema := by
  constructor
  · rintro ⟨others, hothers, h⟩
    rw [hload] at hothers
    cases hothers
    exact h
  · exact fun h => ⟨sources, hload, h⟩

/-- A command did not end because of the way it was called. -/
def Stop.IsFailure (stop : Stop) : Prop :=
  ∀ e, stop ≠ .usage e

theorem isFailure_stopForLoad (e : LoadError) : (stopForLoad e).IsFailure := by
  intro u h
  unfold stopForLoad at h
  split at h <;> cases h

theorem isFailure_stopForFailure (f : Failure) : (stopForFailure f).IsFailure := by
  intro u h
  cases f <;> cases h

theorem exitCode_outcome_of_isFailure {stop : Stop} (h : stop.IsFailure) (warnings : String) (level : LogLevel)
    (state : RunState) : (stop.outcome warnings level state).exitCode = 1 := by
  cases stop with
  | usage e => exact absurd rfl (h e)
  | told errors => rfl
  | crashed c => rfl

theorem disk_outcome (stop : Stop) (warnings : String) (level : LogLevel) (state : RunState) :
    (stop.outcome warnings level state).disk = state.disk := by
  cases stop <;> rfl

/-- A schema is loaded if the paths yield one.  The disk stays as it is. -/
theorem run_loadSchema (settings : Settings) (paths : List Path) (state : RunState) :
    (∃ schema events, Yields settings state.disk paths schema ∧
      (loadSchema settings paths).run.run state = (.ok schema, ⟨state.disk, events⟩)) ∨
    ∃ stop events, (∀ schema, ¬Yields settings state.disk paths schema) ∧ stop.IsFailure ∧
      (loadSchema settings paths).run.run state = (.error stop, ⟨state.disk, events⟩) := by
  unfold loadSchema
  rw [run_get_bind]
  cases hload : loadSources state.disk settings.filePattern (pathsOr settings paths) with
  | error e =>
    refine .inr ⟨_, _, ?_, isFailure_stopForLoad e, rfl⟩
    rintro schema ⟨sources, hsources, -⟩
    rw [hload] at hsources
    cases hsources
  | ok sources =>
    simp only [yields_iff hload]
    cases sources with
    | nil => exact .inr ⟨_, _, fun schema h => h.1 rfl, fun u h => Stop.noConfusion h, rfl⟩
    | cons source sources =>
      dsimp only
      rw [run_bind, analyze]
      cases (Analysis.run (source :: sources)).outcome with
      | error f => exact .inr ⟨_, _, fun schema h => (nomatch h.2), isFailure_stopForFailure f, rfl⟩
      | ok schema => exact .inl ⟨schema, _, ⟨List.cons_ne_nil _ _, rfl⟩, rfl⟩

/-! ### Carrying out a task -/

/-- Arguments ask for a task, and the settings are valid. -/
def Asks (environment : List (String × String)) (d : Disk) (settings : Settings) (arguments : List String)
    (task : Task) : Prop :=
  ∃ warnings, plan environment arguments d = .ok ⟨warnings, settings, task⟩

/-- A command that prints something about the schema that paths yield, ends with exit code 1 if they yield none, and
changes no file. -/
structure Prints (settings : Settings) (d : Disk) (paths : List Path) (shown : Schema → String) (o : Outcome) :
    Prop where
  disk : o.disk = d
  ended : (∃ schema, Yields settings d paths schema ∧ o.exitCode = 0 ∧ o.output = shown schema) ∨
    (∀ schema, ¬Yields settings d paths schema) ∧ o.exitCode = 1 ∧ o.output = ""

/-- A command that writes the schema that paths yield into a file.  It ends with exit code 1 and changes nothing if they
yield none or the file cannot be written. -/
structure Writes (settings : Settings) (d : Disk) (paths : List Path) (output : Path) (o : Outcome) : Prop where
  failed : (∀ schema, ¬Yields settings d paths schema) → o.exitCode = 1 ∧ o.disk = d
  written : ∀ schema, Yields settings d paths schema → (o.exitCode = 1 ∧ o.disk = d) ∨
    o.exitCode = 0 ∧ ∃ place, d.locate output = .ok place ∧
      o.disk.get? place = some (.file (Text.encodeUtf8 (schema.exportText Schema.defaultIndent).toList)) ∧
      ∀ other, other ≠ place → o.disk.get? other = d.get? other

theorem output_outcome (stop : Stop) (warnings : String) (level : LogLevel) (state : RunState) :
    (stop.outcome warnings level state).output = "" := by
  cases stop <;> rfl

section Tasks

variable {environment : List (String × String)} {d : Disk} {settings : Settings} {arguments : List String}
  {paths : List Path}

theorem prints_of_asks {task : Task} {shown : Schema → String} (hasks : Asks environment d settings arguments task)
    (hperform : perform settings task = loadSchema settings paths >>= fun s => pure (shown s)) :
    Prints settings d paths shown (run environment arguments d) := by
  obtain ⟨warnings, hplan⟩ := hasks
  rw [run, hplan]
  dsimp only
  rw [Plan.run, hperform, run_bind]
  rcases run_loadSchema settings paths ⟨d, []⟩ with ⟨schema, events, hyields, hrun⟩ | ⟨stop, events, hnone, hstop, hrun⟩
  · rw [hrun]
    exact ⟨rfl, .inl ⟨schema, hyields, rfl, rfl⟩⟩
  · rw [hrun]
    exact ⟨disk_outcome .., .inr ⟨hnone, exitCode_outcome_of_isFailure hstop .., output_outcome ..⟩⟩

theorem Yields.unique {settings : Settings} {d : Disk} {paths : List Path} {schema schema' : Schema}
    (h : Yields settings d paths schema) (h' : Yields settings d paths schema') : schema = schema' := by
  obtain ⟨sources, hload, -, hschema⟩ := h
  exact Except.ok.inj (hschema.symm.trans ((yields_iff hload).1 h').2)

theorem run_change {ε α : Type} (c : Change ε α) (stop : ε → Stop) (state : RunState) :
    (change c stop).run.run state = match c.run.run state.disk with
      | (.ok a, disk) => (.ok a, ⟨disk, state.events⟩)
      | (.error e, disk) => (.error (stop e), ⟨disk, state.events⟩) := by
  unfold change
  rw [run_get_bind]
  rcases c.run.run state.disk with ⟨_ | _, _⟩ <;> rfl

theorem writes_of_asks {output : Path}
    (hasks : Asks environment d settings arguments (.exportJson paths (some output))) :
    Writes settings d paths output (run environment arguments d) := by
  obtain ⟨warnings, hplan⟩ := hasks
  rw [run, hplan]
  dsimp only
  rw [Plan.run, perform, run_bind]
  rcases run_loadSchema settings paths ⟨d, []⟩ with ⟨schema, events, hyields, hrun⟩ | ⟨stop, events, hnone, hstop, hrun⟩
  · rw [hrun]
    dsimp only
    rw [run_bind, run_change]
    rcases Change.run_writeFile_cases output (Text.encodeUtf8 (schema.exportText Schema.defaultIndent).toList) d with
      ⟨e, hwrite⟩ | ⟨place, hlocate, hroot, hwrite⟩
    · rw [hwrite]
      exact ⟨fun hnone => absurd hyields (hnone schema), fun _ _ => .inl ⟨rfl, rfl⟩⟩
    · rw [hwrite]
      refine ⟨fun hnone => absurd hyields (hnone schema), fun other hother => .inr ⟨rfl, place, hlocate, ?_, ?_⟩⟩
      · rw [hother.unique hyields]
        exact (d.get?_put place place _).trans (if_pos ⟨rfl, hroot⟩)
      · intro elsewhere hne
        exact (d.get?_put place elsewhere _).trans (if_neg fun h => hne h.1)
  · rw [hrun]
    exact ⟨fun _ => ⟨exitCode_outcome_of_isFailure hstop .., disk_outcome ..⟩,
      fun schema h => absurd h (hnone schema)⟩

end Tasks

/-! ### Command lines -/

/-- The environment and the file of settings are valid. -/
def Configured (environment : List (String × String)) (d : Disk) (settings : Settings) : Prop :=
  ∃ text, settingsText d = .ok text ∧ Settings.load environment text = .ok settings

/-- An argument that is no option. -/
def IsOperand (arg : String) : Prop :=
  arg = "-" ∨ ¬['-'] <+: arg.toList

/-- Arguments that give a list of operands: behind two dashes it can be any list, else none of them is an option. -/
inductive Spells : List String → List String → Prop
  | plain {given : List String} (h : ∀ arg ∈ given, IsOperand arg) : Spells given given
  | dashes (given : List String) : Spells ("--" :: given) given

theorem sort_operands (forms : List OptionForm) {given : List String} (h : ∀ arg ∈ given, IsOperand arg) :
    sort forms true given = .ok ⟨[], given⟩ := by
  induction given with
  | nil => rfl
  | cons arg given ih =>
    rw [List.forall_mem_cons] at h
    have hdash : ¬(arg.startsWith "-" = true ∧ arg ≠ "-") := by
      rw [String.startsWith_string_iff]
      exact fun hstart => h.1.elim hstart.2 fun hno => hno hstart.1
    have hend : arg ≠ "--" := by
      rintro rfl
      exact h.1.elim (by decide) fun hno => hno (by decide)
    rw [sort, if_neg hend, if_neg hdash, if_pos rfl, ih h.2]
    rfl

theorem sortUnlessHelp_eq_ok {forms : List OptionForm} {anywhere : Bool} {arguments : List String} {s : Sorted}
    (hsort : sort (forms ++ [helpForm]) anywhere arguments = .ok s) (hhelp : s.option? helpForm.long = none) :
    sortUnlessHelp forms anywhere arguments = .ok s := by
  rw [sortUnlessHelp, hsort]
  change (if (s.option? helpForm.long).isSome then throw .helpAsked else pure s : Except UsageError Sorted) = _
  rw [hhelp]
  rfl

theorem Spells.sort_eq {arguments given : List String} (h : Spells arguments given) (forms : List OptionForm) :
    sort forms true arguments = .ok ⟨[], given⟩ := by
  cases h with
  | plain h => exact sort_operands forms h
  | dashes => rw [sort, if_pos rfl]

theorem Spells.sortUnlessHelp_eq {arguments given : List String} (h : Spells arguments given)
    (forms : List OptionForm) : sortUnlessHelp forms true arguments = .ok ⟨[], given⟩ :=
  sortUnlessHelp_eq_ok (h.sort_eq _) rfl

theorem readPath_eq (arg : String) :
    readPath arg = if '\x00' ∈ arg.toList then .error (.badPath arg) else .ok (Path.ofString arg) := by
  rw [readPath, String.contains_char_eq]
  simp only [decide_eq_true_eq]

theorem mapM_readPath {given : List String} (h : ∀ arg ∈ given, '\x00' ∉ arg.toList) :
    given.mapM readPath = .ok (given.map Path.ofString) := by
  rw [mapM_eq_ok_iff, List.forall₂_map_right_iff, List.forall₂_same]
  intro arg harg
  rw [readPath_eq, if_neg (h arg harg)]

/-- The name of a command stands in front of its arguments. -/
theorem readRequest_eq_ok {name : String} {command : CommandName} (hname : CommandName.of? name = some command)
    (given : List String) : readRequest (name :: given) = .ok ⟨false, none, command, given⟩ := by
  have hmem : name ∈ ["check", "show", "export", "split"] := by
    by_contra hnot
    simp only [List.mem_cons, List.not_mem_nil, or_false, not_or, ← beq_eq_false_iff_ne] at hnot
    simp [CommandName.of?, List.lookup_cons, hnot] at hname
  have hstart : ¬name.startsWith "-" = true := by
    rw [String.startsWith_string_iff]
    exact (by decide : ∀ name ∈ ["check", "show", "export", "split"], ¬"-".toList <+: name.toList) name hmem
  have hend : name ≠ "--" := by
    rintro rfl
    exact absurd hmem (by decide)
  have hsort : sort (mainForms ++ [helpForm]) false (name :: given) = .ok ⟨[], name :: given⟩ := by
    rw [sort, if_neg hend, if_neg fun h => hstart h.1]
    rfl
  have hworkers : Sorted.option? ⟨[], name :: given⟩ "--workers" = none := rfl
  have hverbose : Sorted.option? ⟨[], name :: given⟩ "--verbose" = none := rfl
  simp only [readRequest, sortUnlessHelp_eq_ok hsort rfl, bind, Except.bind, hworkers, hverbose, hname, pure,
    Except.pure, Option.isSome_none]

section Arguments

variable {environment : List (String × String)} {d : Disk} {settings : Settings} {name : String} {command : CommandName}
  {arguments given : List String}

/-- The arguments of a command are read when the settings are. -/
theorem plan_of_configured (hconfigured : Configured environment d settings)
    (hname : CommandName.of? name = some command) :
    plan environment (name :: arguments) d = match readTask command arguments with
      | .error e => .error ⟨settingsWarnings d, settings.logLevel, .usage e⟩
      | .ok task => .ok ⟨settingsWarnings d, settings, task⟩ := by
  obtain ⟨text, htext, hsettings⟩ := hconfigured
  have hread : readSettings environment ⟨false, none, command, arguments⟩ d = .ok settings := by
    simp only [readSettings, htext, hsettings, Option.getD_none, Bool.false_eq_true, if_false]
  cases htask : readTask command arguments with
  | error e => simp only [plan, readRequest_eq_ok hname, hread, htask]
  | ok task => simp only [plan, readRequest_eq_ok hname, hread, htask]

theorem asks_of_readTask_eq_ok {task : Task} (hconfigured : Configured environment d settings)
    (hname : CommandName.of? name = some command) (htask : readTask command arguments = .ok task) :
    Asks environment d settings (name :: arguments) task :=
  ⟨settingsWarnings d, by rw [plan_of_configured hconfigured hname, htask]⟩

theorem Spells.readTask_check (h : Spells arguments given) :
    readTask .check arguments = .check <$> given.mapM readPath := by
  rw [readTask, h.sortUnlessHelp_eq]
  rfl

theorem Spells.readTask_showTables (h : Spells arguments given) :
    readTask .showTables arguments = (.showTables · none) <$> given.mapM readPath := by
  rw [readTask, h.sortUnlessHelp_eq]
  rfl

theorem Spells.readTask_exportJson (h : Spells arguments given) :
    readTask .exportJson arguments = (.exportJson · none) <$> given.mapM readPath := by
  rw [readTask, h.sortUnlessHelp_eq]
  rfl

theorem Spells.readTask_exportJson_output {output : String} (h : Spells arguments given)
    (houtput : '\x00' ∉ output.toList) :
    readTask .exportJson ("--output" :: output :: arguments) =
      (.exportJson · (some (Path.ofString output))) <$> given.mapM readPath := by
  have hread : readOption ([⟨"--output", some 'o', true⟩] ++ [helpForm]) "--output" =
      .ok [(⟨"--output", some 'o', true⟩, none)] := rfl
  have hsort : sort ([⟨"--output", some 'o', true⟩] ++ [helpForm]) true ("--output" :: output :: arguments) =
      .ok ⟨[("--output", output)], given⟩ := by
    rw [sort, if_neg (by decide), if_pos ⟨String.startsWith_string_iff.2 (by decide), by decide⟩, hread]
    dsimp only [List.getLast?, List.getLast]
    rw [if_pos rfl, h.sort_eq]
    rfl
  rw [readTask, sortUnlessHelp_eq_ok hsort rfl]
  change (do return Task.exportJson (← given.mapM readPath) (← (some output).mapM readPath) :
    Except UsageError Task) = _
  rw [Option.mapM_some, readPath_eq, if_neg houtput]
  rfl

end Arguments

/-! ### Agreement -/

/-- What the commands do about some paths. -/
structure CommandsAgree (environment : List (String × String)) (d : Disk) (settings : Settings) (paths : List Path) :
    Prop where
  check : ∀ arguments, Asks environment d settings arguments (.check paths) →
    Prints settings d paths
      (fun s => successLine s!"{s.tables.length} tables, {s.enumerations.length} enumerations")
      (run environment arguments d)
  showTables : ∀ arguments, Asks environment d settings arguments (.showTables paths none) →
    Prints settings d paths schemaText (run environment arguments d)
  exportJson : ∀ arguments, Asks environment d settings arguments (.exportJson paths none) →
    Prints settings d paths (fun s => s.exportText Schema.defaultIndent ++ "\n") (run environment arguments d)
  exportFile : ∀ arguments output, Asks environment d settings arguments (.exportJson paths (some output)) →
    Writes settings d paths output (run environment arguments d)
  refused : ∀ arguments refusal, plan environment arguments d = .error refusal →
    (run environment arguments d).disk = d
  asked : Configured environment d settings →
    ∀ arguments given, Spells arguments given → (∀ arg ∈ given, '\x00' ∉ arg.toList) →
    given.map Path.ofString = paths →
      Asks environment d settings ("check" :: arguments) (.check paths) ∧
      Asks environment d settings ("show" :: arguments) (.showTables paths none) ∧
      Asks environment d settings ("export" :: arguments) (.exportJson paths none) ∧
      ∀ output : String, '\x00' ∉ output.toList →
        Asks environment d settings ("export" :: "--output" :: output :: arguments)
          (.exportJson paths (some (Path.ofString output)))

/-- Commands on the same paths end alike, whatever else stands on their command lines. -/
theorem commands_agree (environment : List (String × String)) (d : Disk) (settings : Settings) (paths : List Path) :
    CommandsAgree environment d settings paths where
  check _ hasks := prints_of_asks hasks rfl
  showTables _ hasks := prints_of_asks hasks rfl
  exportJson _ hasks := prints_of_asks hasks rfl
  exportFile _ _ hasks := writes_of_asks hasks
  refused _ _ hplan := by
    rw [run, hplan]
    exact disk_outcome ..
  asked := by
    rintro hconfigured arguments given hspells hnull rfl
    have hpaths := mapM_readPath hnull
    exact ⟨asks_of_readTask_eq_ok hconfigured rfl (by rw [hspells.readTask_check, hpaths]; rfl),
      asks_of_readTask_eq_ok hconfigured rfl (by rw [hspells.readTask_showTables, hpaths]; rfl),
      asks_of_readTask_eq_ok hconfigured rfl (by rw [hspells.readTask_exportJson, hpaths]; rfl),
      fun output houtput => asks_of_readTask_eq_ok hconfigured rfl
        (by rw [hspells.readTask_exportJson_output houtput, hpaths]; rfl)⟩

/-! ### Paths that are refused -/

theorem not_yields_of_null {settings : Settings} {d : Disk} {p : Path} {part : String} (hpart : part ∈ p.parts)
    (hnull : '\x00' ∈ part.toList) (schema : Schema) : ¬Yields settings d [p] schema := by
  rintro ⟨sources, hload, -⟩
  have hlocate : d.locate p = .error .nullCharacter := Disk.locate_eq_nullCharacter hpart hnull
  have hlook : d.look p = .error .nullCharacter := by rw [Disk.look, hlocate]
  have hexpand : expand d settings.filePattern p = .ok [p] := by
    rw [expand, if_neg]
    rw [Disk.isDirectory, hlook]
    exact Bool.false_ne_true
  have hread : readSource d p = .error (.file ⟨.nullCharacter, p⟩) := by
    rw [readSource, readText, Disk.read, hlook]
    rfl
  have hpath : loadPath d settings.filePattern p = .error (.file ⟨.nullCharacter, p⟩) := by
    rw [loadPath, hexpand]
    change [p].mapM (readSource d) = _
    rw [List.mapM_cons, hread]
    rfl
  rw [pathsOr, if_neg (by simp), loadSources, List.mapM_cons, hpath] at hload
  cases hload

/-- A disk that holds nothing. -/
def emptyDisk : Disk :=
  ⟨[], [], .unbounded⟩

theorem exists_configured_emptyDisk : ∃ settings, Configured [] emptyDisk settings := by
  have htext : settingsText emptyDisk = .ok "" := by
    have henters : emptyDisk.Enters ⟨.relative, []⟩ := by
      intro above habove
      rw [List.prefix_nil.1 habove]
      rfl
    have hlocate : emptyDisk.locate settingsFile = .ok [".env"] :=
      henters.locate_child (by decide) (.of_unbounded rfl (by decide))
    rw [settingsText, Disk.read, Disk.look, hlocate]
    rfl
  have hload : (Settings.load [] "").isOk = true := by decide +kernel
  cases hsettings : Settings.load [] "" with
  | error errors =>
    rw [hsettings] at hload
    cases hload
  | ok settings => exact ⟨settings, "", htext, hsettings⟩

/-- A path with a null character yields no schema, but it is refused with another exit code. -/
theorem exitCode_check_null_character : ∃ environment d settings arguments given,
    Configured environment d settings ∧ Spells arguments given ∧
    (∀ schema, ¬Yields settings d (given.map Path.ofString) schema) ∧
    (run environment ("check" :: arguments) d).exitCode = 2 := by
  obtain ⟨settings, hconfigured⟩ := exists_configured_emptyDisk
  have hspells : Spells ["a\x00.graphql"] ["a\x00.graphql"] := by
    refine .plain fun arg harg => ?_
    rw [List.mem_singleton.1 harg]
    exact .inr (by decide)
  have hread : readTask .check ["a\x00.graphql"] = .error (.badPath "a\x00.graphql") := by
    rw [hspells.readTask_check, List.mapM_cons, readPath_eq, if_pos (by decide)]
    rfl
  refine ⟨[], emptyDisk, settings, _, _, hconfigured, hspells, ?_, ?_⟩
  · have hpart : "a\x00.graphql" ∈ (Path.ofString "a\x00.graphql").parts := by decide +kernel
    exact not_yields_of_null hpart (by decide)
  · rw [run, plan_of_configured hconfigured rfl, hread]
    rfl

end TableSchema.Command
