import Mathlib.Logic.Relation
import TableSchema.Proofs.Resolution

/-!
# Resolving in parallel

A caller hands the tables and then the enumerations of a catalog to a pool of workers, one job each, and reads the
outcomes of the jobs in the order of their submission.  Workers take queued jobs and finish them in any order, also
while the caller still submits or reads.  At the first failure that it reads, the caller cancels the jobs of the same
kind that no worker has started; it leaves the pool once no job is queued or running.

`Step` is a step of the caller or of a worker, and a run is any sequence of steps.  Nothing is assumed about the order
in which jobs are taken and finished.

Main statement: whichever steps are taken, the caller ends with the outcome of resolving the catalog in sequence
(`parallel_eq_sequential`).  The proof is an invariant of single steps (`Pool.Inv.step`), the fact that a pool at rest
has returned (`Pool.Inv.returned_of_complete`), and a weight that every step lowers (`Step.weight_lt`).
-/

namespace TableSchema.Analysis

/-! ### Jobs -/

/-- The two kinds of jobs.  All of the first kind are submitted before those of the second. -/
inductive JobKind
  | table
  | enumeration
deriving DecidableEq

/-- A declaration that is resolved for itself. -/
inductive Job
  | table (t : Sourced Syntax.TableDeclaration)
  | enumeration (e : Sourced Syntax.EnumerationDeclaration)
deriving DecidableEq

/-- A part of a schema, which a job results in. -/
inductive Part
  | table (t : Table)
  | enumeration (e : Enumeration)
deriving DecidableEq

/-- The kind of a job. -/
def Job.kind : Job → JobKind
  | .table _ => .table
  | .enumeration _ => .enumeration

/-- Resolves the declaration of a job. -/
def Job.run (c : Catalog) : Job → Except Failure Part
  | .table t => .table <$> tableOf c t
  | .enumeration e => .enumeration <$> enumerationOf e

/-- The jobs of a catalog, in the order of submission. -/
def jobs (c : Catalog) : List Job :=
  c.tables.map .table ++ c.enumerations.map .enumeration

/-- The table that a part is. -/
def Part.table? : Part → Option Table
  | .table t => some t
  | _ => none

/-- The enumeration that a part is. -/
def Part.enumeration? : Part → Option Enumeration
  | .enumeration e => some e
  | _ => none

/-- The schema with the given parts. -/
def assemble (parts : List Part) : Schema :=
  ⟨parts.filterMap Part.table?, parts.filterMap Part.enumeration?⟩

/-! ### Pools -/

/-- How far a pool of `w` workers is with a job. -/
inductive Status (w : Nat)
  | queued
  | running (worker : Fin w)
  | finished (outcome : Except Failure Part)
  | cancelled

/-- A submitted job. -/
structure Future (w : Nat) where
  job : Job
  status : Status w

/-- How far the caller is: it submits the jobs that wait, reads their outcomes in turn, cancels jobs behind a failure,
waits for the pool to be empty, and returns. -/
inductive Caller
  | submitting (waiting : List Job)
  | reading (parts : List Part)
  | cancelling (kind : JobKind) (failure : Failure)
  | closing (outcome : Except Failure Schema)
  | returned (outcome : Except Failure Schema)

/-- The submitted jobs in order, and the caller. -/
structure Pool (w : Nat) where
  futures : List (Future w)
  caller : Caller

/-- The pool in which nothing has been submitted yet. -/
def Pool.start (c : Catalog) (w : Nat) : Pool w :=
  ⟨[], .submitting (jobs c)⟩

/-- No worker is needed any more. -/
def Future.Settled {w : Nat} (future : Future w) : Prop :=
  future.status = .cancelled ∨ ∃ outcome, future.status = .finished outcome

variable {w : Nat}

theorem Future.not_settled_queued (job : Job) : ¬ (⟨job, .queued⟩ : Future w).Settled := by
  simp [Future.Settled]

theorem Future.not_settled_running (job : Job) (worker : Fin w) : ¬ (⟨job, .running worker⟩ : Future w).Settled := by
  simp [Future.Settled]

/-- One step of the caller or of a worker. -/
inductive Step (c : Catalog) : Pool w → Pool w → Prop
  -- the caller hands in its jobs
  | submit (futures : List (Future w)) (job : Job) (waiting : List Job) :
    Step c ⟨futures, .submitting (job :: waiting)⟩ ⟨futures ++ [⟨job, .queued⟩], .submitting waiting⟩
  | startReading (futures : List (Future w)) : Step c ⟨futures, .submitting []⟩ ⟨futures, .reading []⟩
  -- a worker takes a job, and later has its outcome
  | take {futures : List (Future w)} (caller : Caller) {i : Nat} {job : Job} (worker : Fin w)
    (hqueued : futures[i]? = some ⟨job, .queued⟩) (hidle : ∀ f ∈ futures, f.status ≠ .running worker) :
    Step c ⟨futures, caller⟩ ⟨futures.set i ⟨job, .running worker⟩, caller⟩
  | finish {futures : List (Future w)} (caller : Caller) {i : Nat} {job : Job} {worker : Fin w}
    (hrunning : futures[i]? = some ⟨job, .running worker⟩) :
    Step c ⟨futures, caller⟩ ⟨futures.set i ⟨job, .finished (job.run c)⟩, caller⟩
  -- the caller looks at the outcome whose turn it is, as soon as it is there
  | read {futures : List (Future w)} {parts : List Part} {job : Job} {part : Part}
    (hfinished : futures[parts.length]? = some ⟨job, .finished (.ok part)⟩) :
    Step c ⟨futures, .reading parts⟩ ⟨futures, .reading (parts ++ [part])⟩
  | fail {futures : List (Future w)} {parts : List Part} {job : Job} {failure : Failure}
    (hfinished : futures[parts.length]? = some ⟨job, .finished (.error failure)⟩) :
    Step c ⟨futures, .reading parts⟩ ⟨futures, .cancelling job.kind failure⟩
  -- behind a failure, what no worker has taken is cancelled job by job
  | cancel {futures : List (Future w)} {failure : Failure} {i : Nat} {job : Job}
    (hqueued : futures[i]? = some ⟨job, .queued⟩) :
    Step c ⟨futures, .cancelling job.kind failure⟩ ⟨futures.set i ⟨job, .cancelled⟩, .cancelling job.kind failure⟩
  | giveUp {futures : List (Future w)} {kind : JobKind} (failure : Failure)
    (hnone : ∀ f ∈ futures, f.job.kind = kind → f.status ≠ .queued) :
    Step c ⟨futures, .cancelling kind failure⟩ ⟨futures, .closing (.error failure)⟩
  -- all outcomes are read, or none is needed any more: what is left in the pool has to end
  | collect {futures : List (Future w)} {parts : List Part} (hall : parts.length = futures.length) :
    Step c ⟨futures, .reading parts⟩ ⟨futures, .closing (.ok (assemble parts))⟩
  | close {futures : List (Future w)} (outcome : Except Failure Schema) (hsettled : ∀ f ∈ futures, f.Settled) :
    Step c ⟨futures, .closing outcome⟩ ⟨futures, .returned outcome⟩

/-- A run: any number of steps. -/
abbrev Runs (c : Catalog) : Pool w → Pool w → Prop :=
  Relation.ReflTransGen (Step c)

/-- No step is possible. -/
def Pool.Complete (c : Catalog) (p : Pool w) : Prop :=
  ∀ q, ¬ Step c p q

/-! ### Resolving in sequence -/

/-- Jobs in a row give what their declarations resolve into, each as a part. -/
private theorem mapM_map_eq {α β γ ε : Type} (f : α → Except ε β) (g : β → γ) (items : List α) :
    items.mapM (fun a => g <$> f a) = List.map g <$> items.mapM f := by
  induction items with
  | nil => rfl
  | cons a rest ih =>
    rw [List.mapM_cons, List.mapM_cons, ih]
    cases f a with
    | error e => rfl
    | ok b => cases rest.mapM f <;> rfl

theorem assemble_append (tables : List Table) (enumerations : List Enumeration) :
    assemble (tables.map .table ++ enumerations.map .enumeration) = ⟨tables, enumerations⟩ := by
  have htables : (tables.map Part.table).filterMap Part.table? = tables := by
    simp [List.filterMap_map, Function.comp_def, Part.table?]
  have hnoTable : (enumerations.map Part.enumeration).filterMap Part.table? = [] := by
    simp [Part.table?]
  have henumerations : (enumerations.map Part.enumeration).filterMap Part.enumeration? = enumerations := by
    simp [List.filterMap_map, Function.comp_def, Part.enumeration?]
  have hnoEnumeration : (tables.map Part.table).filterMap Part.enumeration? = [] := by
    simp [Part.enumeration?]
  rw [assemble, List.filterMap_append, List.filterMap_append, htables, hnoTable, henumerations, hnoEnumeration,
    List.append_nil, List.nil_append]

/-- Resolving a catalog in sequence runs its jobs in the order of submission. -/
theorem outcome_schemaOf_eq_assemble (c : Catalog) :
    (schemaOf c).outcome = assemble <$> (jobs c).mapM (Job.run c) := by
  rw [outcome_schemaOf, jobs, List.mapM_append, List.mapM_map, List.mapM_map]
  show _ = assemble <$> (do
    let tables ← c.tables.mapM fun t => Part.table <$> tableOf c t
    let enumerations ← c.enumerations.mapM fun e => Part.enumeration <$> enumerationOf e
    return tables ++ enumerations)
  rw [mapM_map_eq, mapM_map_eq]
  cases c.tables.mapM (tableOf c) with
  | error failure => rfl
  | ok tables =>
    cases c.enumerations.mapM enumerationOf with
    | error failure => rfl
    | ok enumerations => exact congrArg Except.ok (assemble_append tables enumerations).symm

/-- If all jobs before one succeed and that one fails, then so do all jobs together. -/
theorem outcome_schemaOf_eq_error {c : Catalog} {n : Nat} {parts : List Part} {job : Job} {failure : Failure}
    (hbefore : ((jobs c).take n).mapM (Job.run c) = .ok parts) (hjob : (jobs c)[n]? = some job)
    (hfail : job.run c = .error failure) : (schemaOf c).outcome = .error failure := by
  have hsplit : jobs c = (jobs c).take n ++ job :: (jobs c).drop (n + 1) := by
    obtain ⟨hn, rfl⟩ := List.getElem?_eq_some_iff.1 hjob
    rw [← List.drop_eq_getElem_cons, List.take_append_drop]
  rw [outcome_schemaOf_eq_assemble, hsplit, List.mapM_append, hbefore, List.mapM_cons, hfail]
  rfl

/-- If all jobs succeed, then the schema is assembled from their parts. -/
theorem outcome_schemaOf_eq_ok {c : Catalog} {parts : List Part} (h : (jobs c).mapM (Job.run c) = .ok parts) :
    (schemaOf c).outcome = .ok (assemble parts) := by
  rw [outcome_schemaOf_eq_assemble, h]
  rfl

/-- One more job that succeeds. -/
theorem mapM_run_take_succ {c : Catalog} {n : Nat} {parts : List Part} {job : Job} {part : Part}
    (hbefore : ((jobs c).take n).mapM (Job.run c) = .ok parts) (hjob : (jobs c)[n]? = some job)
    (hrun : job.run c = .ok part) : ((jobs c).take (n + 1)).mapM (Job.run c) = .ok (parts ++ [part]) := by
  rw [List.take_add_one, hjob, List.mapM_append, hbefore]
  show (do let last ← [job].mapM (Job.run c); return parts ++ last) = _
  rw [List.mapM_cons, hrun]
  rfl

/-! ### The invariant -/

/-- What holds of a caller and the submitted jobs.  Nothing is cancelled before the caller has read a failure, and what
it has read or decided by then is what resolving in sequence comes to. -/
def Caller.Sound (c : Catalog) (futures : List (Future w)) : Caller → Prop
  | .submitting waiting => futures.map (·.job) ++ waiting = jobs c ∧ ∀ f ∈ futures, f.status ≠ .cancelled
  | .reading parts =>
    futures.map (·.job) = jobs c ∧ (∀ f ∈ futures, f.status ≠ .cancelled) ∧ parts.length ≤ futures.length ∧
      ((jobs c).take parts.length).mapM (Job.run c) = .ok parts
  | .cancelling _ failure => (schemaOf c).outcome = .error failure
  | .closing outcome => (schemaOf c).outcome = outcome
  | .returned outcome => (schemaOf c).outcome = outcome ∧ ∀ f ∈ futures, f.Settled

/-- What holds of a pool after any number of steps. -/
structure Pool.Inv (c : Catalog) (p : Pool w) : Prop where
  /-- A finished job has the outcome of its own declaration. -/
  honest : ∀ f ∈ p.futures, ∀ outcome, f.status = .finished outcome → f.job.run c = outcome
  sound : p.caller.Sound c p.futures

theorem Pool.inv_start (c : Catalog) : (Pool.start c w).Inv c := by
  refine ⟨fun f hf => ?_, rfl, fun f hf => ?_⟩
  · cases hf
  · cases hf

/-- A new status leaves the job of a future as it is. -/
theorem map_job_set {futures : List (Future w)} {i : Nat} {job : Job} {old : Status w}
    (hi : futures[i]? = some ⟨job, old⟩) (new : Status w) :
    (futures.set i ⟨job, new⟩).map (·.job) = futures.map (·.job) := by
  have hlt : i < futures.length := (List.getElem?_eq_some_iff.1 hi).1
  apply List.ext_getElem?
  intro j
  rw [List.getElem?_map, List.getElem?_map, List.getElem?_set]
  by_cases hj : i = j
  · rw [if_pos hj, if_pos hlt, ← hj, hi]
    rfl
  · rw [if_neg hj]

/-- The invariant does not depend on how far the jobs are, as long as no outcome is made up and nothing is cancelled
before the caller has read a failure. -/
theorem Pool.Inv.set {c : Catalog} {futures : List (Future w)} {caller : Caller} {i : Nat} {job : Job} {old : Status w}
    (h : Pool.Inv c ⟨futures, caller⟩) (hi : futures[i]? = some ⟨job, old⟩) (hold : ¬ Future.Settled ⟨job, old⟩)
    {new : Status w} (hfinished : ∀ outcome, new = .finished outcome → job.run c = outcome)
    (hcancelled : new = .cancelled → ∃ kind failure, caller = .cancelling kind failure) :
    Pool.Inv c ⟨futures.set i ⟨job, new⟩, caller⟩ := by
  obtain ⟨honest, sound⟩ := h
  have hnone : (∀ kind failure, caller ≠ .cancelling kind failure) → (∀ f ∈ futures, f.status ≠ .cancelled) →
      ∀ f ∈ futures.set i ⟨job, new⟩, f.status ≠ .cancelled := by
    intro hcaller hfutures f hf
    rcases List.mem_or_eq_of_mem_set hf with hf | rfl
    · exact hfutures f hf
    · intro hnew
      obtain ⟨kind, failure, hcancelling⟩ := hcancelled hnew
      exact hcaller kind failure hcancelling
  refine ⟨fun f hf => ?_, ?_⟩
  · rcases List.mem_or_eq_of_mem_set hf with hf | rfl
    · exact honest f hf
    · exact hfinished
  · -- Of the submitted jobs the caller only relies on the order, the number, and that none is cancelled.
    cases caller with
    | submitting waiting =>
      obtain ⟨hjobs, hfutures⟩ := sound
      refine ⟨?_, hnone (by simp) hfutures⟩
      rw [map_job_set hi]
      exact hjobs
    | reading parts =>
      obtain ⟨hjobs, hfutures, hlength, hparts⟩ := sound
      refine ⟨?_, hnone (by simp) hfutures, ?_, hparts⟩
      · rw [map_job_set hi]
        exact hjobs
      · rw [List.length_set]
        exact hlength
    | cancelling kind failure => exact sound
    | closing outcome => exact sound
    | returned outcome => exact absurd (sound.2 _ (List.mem_of_getElem? hi)) hold

/-- What the caller reads is the outcome of the job whose turn it is. -/
theorem Pool.Inv.next {c : Catalog} {futures : List (Future w)} {parts : List Part}
    (h : Pool.Inv c ⟨futures, .reading parts⟩) {job : Job} {outcome : Except Failure Part}
    (hfinished : futures[parts.length]? = some ⟨job, .finished outcome⟩) :
    (jobs c)[parts.length]? = some job ∧ job.run c = outcome := by
  refine ⟨?_, h.honest _ (List.mem_of_getElem? hfinished) outcome rfl⟩
  rw [← h.sound.1, List.getElem?_map, hfinished]
  rfl

/-- Every step keeps the invariant. -/
theorem Pool.Inv.step {c : Catalog} {p q : Pool w} (h : p.Inv c) (hstep : Step c p q) : q.Inv c := by
  cases hstep with
  | submit futures job waiting =>
    obtain ⟨honest, hjobs, hfutures⟩ := h
    have hadd : ∀ {P : Future w → Prop}, (∀ f ∈ futures, P f) → P ⟨job, .queued⟩ →
        ∀ f ∈ futures ++ [⟨job, .queued⟩], P f := by
      intro P hold hnew f hf
      rcases List.mem_append.1 hf with hf | hf
      · exact hold f hf
      · rwa [List.mem_singleton.1 hf]
    refine ⟨hadd honest (by simp), ?_, hadd hfutures (by simp)⟩
    rw [List.map_append, List.append_assoc]
    exact hjobs
  | startReading futures =>
    obtain ⟨honest, hjobs, hfutures⟩ := h
    rw [List.append_nil] at hjobs
    exact ⟨honest, hjobs, hfutures, Nat.zero_le _, rfl⟩
  | take caller worker hqueued hidle =>
    exact h.set hqueued (Future.not_settled_queued _) (by simp) (by simp)
  | @finish futures caller i job worker hrunning =>
    refine h.set hrunning (Future.not_settled_running _ _) (fun outcome heq => ?_) (by simp)
    cases heq
    rfl
  | @read futures parts job part hfinished =>
    obtain ⟨hjob, hrun⟩ := h.next hfinished
    obtain ⟨honest, hjobs, hfutures, -, hparts⟩ := h
    have hlt : parts.length < futures.length := (List.getElem?_eq_some_iff.1 hfinished).1
    refine ⟨honest, hjobs, hfutures, ?_, ?_⟩
    · rw [List.length_append, List.length_singleton]
      exact hlt
    · rw [List.length_append, List.length_singleton]
      exact mapM_run_take_succ hparts hjob hrun
  | fail hfinished =>
    obtain ⟨hjob, hrun⟩ := h.next hfinished
    exact ⟨h.honest, outcome_schemaOf_eq_error h.sound.2.2.2 hjob hrun⟩
  | cancel hqueued =>
    exact h.set hqueued (Future.not_settled_queued _) (by simp) fun _ => ⟨_, _, rfl⟩
  | giveUp failure hnone => exact ⟨h.honest, h.sound⟩
  | collect hall =>
    obtain ⟨honest, hjobs, -, -, hparts⟩ := h
    refine ⟨honest, outcome_schemaOf_eq_ok ?_⟩
    rwa [hall, ← List.length_map, hjobs, List.take_length] at hparts
  | close outcome hsettled => exact ⟨h.honest, h.sound, hsettled⟩

/-- A run keeps the invariant. -/
theorem Pool.Inv.runs {c : Catalog} {p q : Pool w} (h : p.Inv c) (hruns : Runs c p q) : q.Inv c := by
  induction hruns with
  | refl => exact h
  | tail _ hstep ih => exact ih.step hstep

/-! ### Pools at rest -/

/-- As long as a pool has workers, it comes to rest only when all submitted jobs are settled. -/
theorem Pool.settled_of_complete {c : Catalog} (hw : 0 < w) {p : Pool w} (h : p.Complete c) :
    ∀ f ∈ p.futures, f.Settled := by
  obtain ⟨futures, caller⟩ := p
  have hrunning : ∀ f ∈ futures, ∀ worker, f.status ≠ .running worker := by
    rintro ⟨job, status⟩ hf worker rfl
    obtain ⟨i, hi⟩ := List.getElem?_of_mem hf
    exact h _ (.finish caller hi)
  intro f hf
  obtain ⟨job, status⟩ := f
  cases status with
  | queued =>
    -- Nothing is running, so every worker is idle and could take the job.
    obtain ⟨i, hi⟩ := List.getElem?_of_mem hf
    exact absurd (.take caller ⟨0, hw⟩ hi fun f hf => hrunning f hf ⟨0, hw⟩) (h _)
  | running worker => exact absurd rfl (hrunning _ hf worker)
  | finished outcome => exact .inr ⟨outcome, rfl⟩
  | cancelled => exact .inl rfl

/-- A pool at rest has returned the outcome of resolving in sequence. -/
theorem Pool.Inv.returned_of_complete {c : Catalog} (hw : 0 < w) {p : Pool w} (hinv : p.Inv c) (h : p.Complete c) :
    p.caller = .returned (schemaOf c).outcome := by
  have hsettled := Pool.settled_of_complete hw h
  obtain ⟨futures, caller⟩ := p
  cases caller with
  | submitting waiting =>
    cases waiting with
    | nil => exact absurd (.startReading futures) (h _)
    | cons job waiting => exact absurd (.submit futures job waiting) (h _)
  | reading parts =>
    obtain ⟨-, hfutures, hlength, -⟩ := hinv.sound
    rcases Nat.lt_or_eq_of_le hlength with hlt | heq
    · -- The job whose turn it is was not cancelled, so its outcome can be read.
      obtain ⟨⟨job, status⟩, hi⟩ : ∃ f, futures[parts.length]? = some f := ⟨_, List.getElem?_eq_getElem hlt⟩
      have hmem : (⟨job, status⟩ : Future w) ∈ futures := List.mem_of_getElem? hi
      rcases hsettled _ hmem with hcancelled | ⟨outcome, rfl⟩
      · exact absurd hcancelled (hfutures _ hmem)
      · cases outcome with
        | ok part => exact absurd (.read hi) (h _)
        | error failure => exact absurd (.fail hi) (h _)
    · exact absurd (.collect heq) (h _)
  | cancelling kind failure =>
    refine absurd (.giveUp failure fun f hf _ hqueued => ?_) (h _)
    rcases hsettled f hf with hcancelled | ⟨outcome, hfinished⟩
    · rw [hqueued] at hcancelled
      cases hcancelled
    · rw [hqueued] at hfinished
      cases hfinished
  | closing outcome => exact absurd (.close outcome hsettled) (h _)
  | returned outcome => rw [hinv.sound.1]

/-- A caller that has returned has left a pool at rest. -/
theorem Pool.Inv.complete_of_returned {c : Catalog} {p : Pool w} (hinv : p.Inv c) {outcome : Except Failure Schema}
    (h : p.caller = .returned outcome) : p.Complete c := by
  obtain ⟨futures, caller⟩ := p
  obtain rfl : caller = .returned outcome := h
  have hsettled := hinv.sound.2
  intro q hstep
  cases hstep with
  | take _ worker hqueued _ => exact Future.not_settled_queued _ (hsettled _ (List.mem_of_getElem? hqueued))
  | finish _ hrunning => exact Future.not_settled_running _ _ (hsettled _ (List.mem_of_getElem? hrunning))

/-! ### Runs end -/

/-- The number of steps that a job still needs from workers. -/
def Status.weight : Status w → Nat
  | .queued => 2
  | .running _ => 1
  | .finished _ => 0
  | .cancelled => 0

/-- A bound for the steps that a caller still takes by itself and for the jobs that it still submits, with `n` jobs
submitted. -/
def Caller.weight (n : Nat) : Caller → Nat
  | .submitting waiting => 4 * waiting.length + n + 4
  | .reading parts => n - parts.length + 3
  | .cancelling _ _ => 2
  | .closing _ => 1
  | .returned _ => 0

/-- The number of steps that jobs still need from workers. -/
def futuresWeight : List (Future w) → Nat
  | [] => 0
  | f :: futures => f.status.weight + futuresWeight futures

/-- A bound for the steps that a pool can still take. -/
def Pool.weight (p : Pool w) : Nat :=
  futuresWeight p.futures + p.caller.weight p.futures.length

theorem futuresWeight_append_singleton (futures : List (Future w)) (f : Future w) :
    futuresWeight (futures ++ [f]) = futuresWeight futures + f.status.weight := by
  induction futures with
  | nil => exact Nat.add_comm _ _
  | cons first futures ih => rw [List.cons_append, futuresWeight, futuresWeight, ih, Nat.add_assoc]

/-- A job that gets on makes all jobs together lighter. -/
theorem futuresWeight_set_lt {futures : List (Future w)} {i : Nat} {job : Job} {old new : Status w}
    (hi : futures[i]? = some ⟨job, old⟩) (hlt : new.weight < old.weight) :
    futuresWeight (futures.set i ⟨job, new⟩) < futuresWeight futures := by
  induction futures generalizing i with
  | nil => cases hi
  | cons f futures ih =>
    cases i with
    | zero =>
      cases hi
      exact Nat.add_lt_add_right hlt _
    | succ i =>
      rw [List.getElem?_cons_succ] at hi
      exact Nat.add_lt_add_left (ih hi) _

theorem Pool.weight_set_lt {futures : List (Future w)} {i : Nat} {job : Job} {old new : Status w} (caller : Caller)
    (hi : futures[i]? = some ⟨job, old⟩) (hlt : new.weight < old.weight) :
    Pool.weight ⟨futures.set i ⟨job, new⟩, caller⟩ < Pool.weight ⟨futures, caller⟩ := by
  unfold Pool.weight
  rw [List.length_set]
  exact Nat.add_lt_add_right (futuresWeight_set_lt hi hlt) _

/-- Every step makes a pool lighter. -/
theorem Step.weight_lt {c : Catalog} {p q : Pool w} (h : Step c p q) : q.weight < p.weight := by
  cases h with
  | submit futures job waiting =>
    simp only [Pool.weight, futuresWeight_append_singleton, List.length_append, List.length_cons, List.length_nil,
      Status.weight, Caller.weight]
    omega
  | startReading futures =>
    simp only [Pool.weight, Caller.weight, List.length_nil]
    omega
  | take caller worker hqueued _ => exact Pool.weight_set_lt caller hqueued (by simp [Status.weight])
  | finish caller hrunning => exact Pool.weight_set_lt caller hrunning (by simp [Status.weight])
  | read hfinished =>
    have hlt := (List.getElem?_eq_some_iff.1 hfinished).1
    simp only [Pool.weight, Caller.weight, List.length_append, List.length_singleton]
    omega
  | fail hfinished =>
    simp only [Pool.weight, Caller.weight]
    omega
  | cancel hqueued => exact Pool.weight_set_lt _ hqueued (by simp [Status.weight])
  | giveUp failure hnone =>
    simp only [Pool.weight, Caller.weight]
    omega
  | collect hall =>
    simp only [Pool.weight, Caller.weight]
    omega
  | close outcome hsettled =>
    simp only [Pool.weight, Caller.weight]
    omega

/-- No run goes on forever. -/
theorem exists_not_step (c : Catalog) (run : Nat → Pool w) : ∃ n, ¬ Step c (run n) (run (n + 1)) := by
  by_contra hforever
  have hstep : ∀ n, Step c (run n) (run (n + 1)) := fun n => not_not.1 fun h => hforever ⟨n, h⟩
  -- The steps up to any point are paid for by the weight at the start.
  have hpaid : ∀ n, (run n).weight + n ≤ (run 0).weight := by
    intro n
    induction n with
    | zero => exact Nat.le_refl _
    | succ n ih =>
      have hlt := (hstep n).weight_lt
      omega
  have hlast := hpaid ((run 0).weight + 1)
  omega

/-- Resolving in parallel, with any number of workers and in any order of steps, comes to what resolving in sequence
comes to: a run that cannot go on has returned the outcome of it, nothing else is ever returned, and no run goes on
forever. -/
theorem parallel_eq_sequential (c : Catalog) (hw : 0 < w) {p : Pool w} (h : Runs c (Pool.start c w) p) :
    (p.Complete c ↔ p.caller = .returned (schemaOf c).outcome) ∧
      (∀ outcome, p.caller = .returned outcome → outcome = (schemaOf c).outcome) ∧
      ∀ run : Nat → Pool w, run 0 = p → ∃ n, ¬ Step c (run n) (run (n + 1)) := by
  have hinv := (Pool.inv_start c).runs h
  refine ⟨⟨hinv.returned_of_complete hw, hinv.complete_of_returned⟩, fun outcome hreturned => ?_,
    fun run _ => exists_not_step c run⟩
  have hsound := hinv.sound
  rw [hreturned] at hsound
  exact hsound.1.symm

/-- Two workers, a table and an enumeration that both fail: the enumeration fails first, and the caller returns the
failure of the table. -/
theorem parallel_eq_sequential_two_failures :
    ∃ (c : Catalog) (p : Pool 2) (source : Syntax.Source) (name : String) (type : Syntax.TypeExpr),
      Runs c (Pool.start c 2) p ∧
        p.caller = .returned (.error (.problem source (.unresolvedType type name))) ∧
        (p.Complete c ↔ p.caller = .returned (schemaOf c).outcome) ∧
        (∀ outcome, p.caller = .returned outcome → outcome = (schemaOf c).outcome) ∧
        ∀ run : Nat → Pool 2, run 0 = p → ∃ n, ¬ Step c (run n) (run (n + 1)) := by
  let source : Syntax.Source := .ofText "document" "type T \x7b a: X \x7d enum E \x7b A \x7d"
  let t : Sourced Syntax.TableDeclaration :=
    ⟨source, 0, 15, none, ⟨5, "T"⟩, [], [], [⟨9, none, ⟨9, "a"⟩, [], .named 12 "X", []⟩]⟩
  let e : Sourced Syntax.EnumerationDeclaration := ⟨source, 16, 28, none, ⟨21, "E"⟩, [], [⟨25, none, ⟨25, "A"⟩, []⟩]⟩
  let c : Catalog := ⟨[t], [e]⟩
  let failure : Failure := .problem source (.unresolvedType (.named 12 "X") "X")
  have htable : (⟨.table t, .finished ((Job.table t).run c)⟩ : Future 2) = ⟨.table t, .finished (.error failure)⟩ := rfl
  have hruns : Runs c (Pool.start c 2)
      ⟨[⟨.table t, .finished ((Job.table t).run c)⟩, ⟨.enumeration e, .finished ((Job.enumeration e).run c)⟩],
        .returned (.error failure)⟩ := by
    apply Relation.ReflTransGen.head (.submit _ _ _)
    apply Relation.ReflTransGen.head (.submit _ _ _)
    apply Relation.ReflTransGen.head (.startReading _)
    apply Relation.ReflTransGen.head (.take _ (i := 1) 1 rfl (by simp))
    apply Relation.ReflTransGen.head (.take _ (i := 0) 0 rfl (by simp))
    apply Relation.ReflTransGen.head (.finish _ (i := 1) rfl)
    apply Relation.ReflTransGen.head (.finish _ (i := 0) rfl)
    apply Relation.ReflTransGen.head (.fail (congrArg some htable))
    apply Relation.ReflTransGen.head (.giveUp _ (by simp))
    apply Relation.ReflTransGen.head (.close _ (by simp [Future.Settled]))
    exact .refl
  exact ⟨c, _, source, "X", .named 12 "X", hruns, rfl, parallel_eq_sequential c (by decide) hruns⟩

end TableSchema.Analysis
