import TableSchema.Proofs.Commands
import TableSchema.Proofs.Pool

/-!
# The number of workers

Tables and enumerations are resolved in sequence if there is at most one worker, and in a pool if there are more.  A
pool can run in many ways, so that `ResolvesWith` and `AnalyzesWith` are relations: they say how resolving a catalog and
analysing sources with a number of workers can end.

* (pools) every pool can go on until it is at rest (`Pool.exists_runs_complete`);
* (outcomes) there is exactly one outcome, which does not depend on the number (`resolvesWith_iff`, `analyzesWith_iff`).

Main statements: a command that loads a schema ends as every analysis with the configured number of workers does
(`run_loadSchema_eq_of_analyzesWith`), and the schema that paths yield is the one that these analyses give
(`yields_iff_analyzesWith`).
-/

namespace TableSchema

open Syntax

namespace Analysis

/-! ### Pools -/

section Pools

variable {c : Catalog} {w : Nat}

/-- Every pool can go on until no step is possible. -/
theorem Pool.exists_runs_complete (p : Pool w) : ∃ q, Runs c p q ∧ q.Complete c := by
  -- a step makes the pool lighter
  induction hweight : p.weight using Nat.strong_induction_on generalizing p with
  | h weight ih =>
    by_cases hcomplete : p.Complete c
    · exact ⟨p, .refl, hcomplete⟩
    · obtain ⟨q, hstep⟩ : ∃ q, Step c p q := by
        simpa only [Pool.Complete, not_forall, not_not] using hcomplete
      obtain ⟨r, hruns, hr⟩ := ih q.weight (hweight ▸ hstep.weight_lt) q rfl
      exact ⟨r, .head hstep hruns, hr⟩

end Pools

/-! ### Outcomes -/

/-- How resolving a catalog with a number of workers can end. -/
inductive ResolvesWith (c : Catalog) (w : Nat) : Except Failure Schema → Prop
  | sequence (hw : w ≤ 1) : ResolvesWith c w (schemaOf c).outcome
  | pool {p : Pool w} {outcome : Except Failure Schema} (hw : 1 < w) (hruns : Runs c (Pool.start c w) p)
      (hreturned : p.caller = .returned outcome) :
    ResolvesWith c w outcome

/-- How analysing sources with a number of workers can end.  Workers are needed only for what could be registered. -/
inductive AnalyzesWith (sources : List Source) (w : Nat) : Except Failure Schema → Prop
  | malformed {failure : Failure} (h : (parseSources sources).outcome = .error failure) :
    AnalyzesWith sources w (.error failure)
  | unregistered {documents : List Document} {failure : Failure}
      (hparsed : (parseSources sources).outcome = .ok documents) (h : (catalogOf documents).outcome = .error failure) :
    AnalyzesWith sources w (.error failure)
  | resolved {documents : List Document} {c : Catalog} {outcome : Except Failure Schema}
      (hparsed : (parseSources sources).outcome = .ok documents) (hregistered : (catalogOf documents).outcome = .ok c)
      (h : ResolvesWith c w outcome) :
    AnalyzesWith sources w outcome

section Outcomes

variable {c : Catalog} {w : Nat} {outcome : Except Failure Schema} {sources : List Source}

/-- Resolving with any number of workers ends as resolving in sequence does. -/
theorem resolvesWith_iff : ResolvesWith c w outcome ↔ (schemaOf c).outcome = outcome := by
  constructor
  · rintro (_ | ⟨-, hruns, hreturned⟩)
    · rfl
    · have hsound := ((Pool.inv_start c).runs hruns).sound
      rw [hreturned] at hsound
      exact hsound.1
  · rintro rfl
    by_cases hw : w ≤ 1
    · exact .sequence hw
    · have hworkers : 1 < w := Nat.lt_of_not_le hw
      obtain ⟨p, hruns, hcomplete⟩ := Pool.exists_runs_complete (c := c) (Pool.start c w)
      have hinv := (Pool.inv_start c).runs hruns
      exact .pool hworkers hruns (hinv.returned_of_complete (Nat.lt_of_succ_lt hworkers) hcomplete)

/-- Analysing with any number of workers ends as the analysis does. -/
theorem analyzesWith_iff : AnalyzesWith sources w outcome ↔ analyze sources = outcome := by
  have hanalyze : analyze sources = (parseSources sources).outcome >>= fun documents =>
      (catalogOf documents).outcome >>= fun catalog => (schemaOf catalog).outcome := by
    simp only [analyze_eq_bind, parseSources, Run.outcome_each, catalogOf, Run.outcome_fold]
  constructor
  · rintro (h | ⟨hparsed, h⟩ | ⟨hparsed, hregistered, h⟩)
    · rw [hanalyze, h]
      rfl
    · rw [hanalyze, hparsed]
      show (catalogOf _).outcome >>= _ = _
      rw [h]
      rfl
    · rw [hanalyze, hparsed]
      show (catalogOf _).outcome >>= _ = _
      rw [hregistered]
      exact resolvesWith_iff.1 h
  · rintro rfl
    rw [hanalyze]
    cases hparsed : (parseSources sources).outcome with
    | error failure => exact .malformed hparsed
    | ok documents =>
      show AnalyzesWith sources w ((catalogOf documents).outcome >>= _)
      cases hregistered : (catalogOf documents).outcome with
      | error failure => exact .unregistered hparsed hregistered
      | ok c => exact .resolved hparsed hregistered (resolvesWith_iff.2 rfl)

end Outcomes

end Analysis

/-! ### Commands -/

namespace Command

open Analysis Files

section Workers

variable {settings : Settings} {paths : List Path}

/-- An analysis with the configured number of workers can end, and however it ends, so does loading the schema of some
sources. -/
theorem run_loadSchema_eq_of_analyzesWith {state : RunState} {sources : List Source}
    (hload : loadSources state.disk settings.filePattern (pathsOr settings paths) = .ok sources)
    (hsources : sources ≠ []) :
    (∃ outcome, AnalyzesWith sources settings.workers outcome) ∧
      ∀ outcome, AnalyzesWith sources settings.workers outcome →
        ((loadSchema settings paths).run.run state).1 = outcome.mapError stopForFailure := by
  refine ⟨⟨_, analyzesWith_iff.2 rfl⟩, fun outcome h => ?_⟩
  obtain rfl := analyzesWith_iff.1 h
  unfold loadSchema
  rw [run_get_bind, hload]
  cases sources with
  | nil => exact absurd rfl hsources
  | cons source sources =>
    dsimp only
    rw [run_bind, analyze]
    cases (Analysis.run (source :: sources)).outcome <;> rfl

/-- The schema that paths yield is what analyses with the configured number of workers give. -/
theorem yields_iff_analyzesWith {d : Disk} {schema : Schema} :
    Yields settings d paths schema ↔
      ∃ sources, loadSources d settings.filePattern (pathsOr settings paths) = .ok sources ∧ sources ≠ [] ∧
        AnalyzesWith sources settings.workers (.ok schema) := by
  simp only [Yields, analyzesWith_iff]

end Workers

end Command

end TableSchema
