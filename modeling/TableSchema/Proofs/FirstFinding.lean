import Mathlib.Data.List.Forall2
import Mathlib.Data.List.Nodup

/-!
# Checks that stop at their first finding

A check either stops at the first thing that it finds, or it could go on and list everything that there is to find.
`Reports r found` says that the outcome `r` of a check of the first kind is the one that the list `found` of the second
kind gives: success if nothing is found, and otherwise the failure that comes first.

* (composition) one check after another reports the findings of both in this order (`Reports.bind`), and a check of
  every item of a list reports the findings of the items in the order of the list (`Reports.mapM`);
* (earlier items) where the findings at an item depend on the items before it, they are listed by `inOrder`, and a
  loop that carries a summary of these items reports them (`Reports.foldlM`);
* (repetitions) nothing is found by `repetition` exactly when the keys are without duplicates
  (`inOrder_repetition_eq_nil_iff`).
-/

namespace TableSchema

variable {ε ε' α β σ : Type}

/-! ### Outcomes -/

theorem map_eq_ok_iff {r : Except ε α} {g : α → β} {b : β} : g <$> r = .ok b ↔ ∃ a, r = .ok a ∧ g a = b := by
  cases r <;> simp [Functor.map, Except.map]

theorem map_eq_error_iff {r : Except ε α} {g : α → β} {e : ε} : g <$> r = .error e ↔ r = .error e := by
  cases r <;> simp [Functor.map, Except.map]

theorem bind_eq_ok_iff {r : Except ε α} {next : α → Except ε β} {b : β} :
    r >>= next = .ok b ↔ ∃ a, r = .ok a ∧ next a = .ok b := by
  cases r <;> simp [Bind.bind, Except.bind]

theorem bind_eq_error_iff {r : Except ε α} {next : α → Except ε β} {e : ε} :
    r >>= next = .error e ↔ r = .error e ∨ ∃ a, r = .ok a ∧ next a = .error e := by
  cases r <;> simp [Bind.bind, Except.bind]

theorem mapError_eq_ok_iff {r : Except ε α} {g : ε → ε'} {a : α} : r.mapError g = .ok a ↔ r = .ok a := by
  cases r <;> simp [Except.mapError]

theorem mapError_eq_error_iff {r : Except ε α} {g : ε → ε'} {e' : ε'} :
    r.mapError g = .error e' ↔ ∃ e, r = .error e ∧ g e = e' := by
  cases r <;> simp [Except.mapError]

theorem mapM_eq_ok_iff {f : α → Except ε β} {items : List α} {results : List β} :
    items.mapM f = .ok results ↔ List.Forall₂ (fun a b => f a = .ok b) items results := by
  induction items generalizing results with
  | nil => cases results <;> simp [Pure.pure, Except.pure]
  | cons a rest ih =>
    rw [List.mapM_cons]
    cases h : f a with
    | error e => cases results <;> simp [h, Bind.bind, Except.bind]
    | ok b =>
      cases hrest : rest.mapM f with
      | error e =>
        cases results with
        | nil => simp [Bind.bind, Except.bind]
        | cons b' bs => simp [h, ← ih, hrest, Bind.bind, Except.bind]
      | ok bs => cases results <;> simp [h, ← ih, hrest, Bind.bind, Except.bind, Pure.pure, Except.pure]

/-- Every item of a list of counterparts is the counterpart of an item. -/
theorem exists_of_forall₂_of_mem {related : α → β → Prop} {as : List α} {bs : List β}
    (h : List.Forall₂ related as bs) {b : β} (hb : b ∈ bs) : ∃ a ∈ as, related a b := by
  induction h with
  | nil => cases hb
  | @cons first counterpart as bs hfirst _ ih =>
    rcases List.mem_cons.1 hb with rfl | hb
    · exact ⟨first, List.mem_cons_self, hfirst⟩
    · obtain ⟨a, ha, hrelated⟩ := ih hb
      exact ⟨a, List.mem_cons_of_mem _ ha, hrelated⟩

/-! ### Findings -/

/-- The outcome of a check that stops at the first of a list of findings. -/
def Reports (r : Except ε α) (found : List ε) : Prop :=
  match r with
  | .ok _ => found = []
  | .error e => found.head? = some e

namespace Reports

variable {r : Except ε α} {found : List ε}

theorem ok (a : α) : Reports (.ok a : Except ε α) [] := rfl

theorem pure (a : α) : Reports (pure a : Except ε α) [] := rfl

theorem error (e : ε) (others : List ε) : Reports (.error e : Except ε α) (e :: others) := rfl

theorem eq_error_iff (h : Reports r found) (e : ε) : r = .error e ↔ found.head? = some e := by
  cases r with
  | ok a => simp [show found = [] from h]
  | error e' =>
    have h' : found.head? = some e' := h
    simp [h']

theorem exists_ok_iff (h : Reports r found) : (∃ a, r = .ok a) ↔ found = [] := by
  cases r with
  | ok a => simp [show found = [] from h]
  | error e =>
    have h' : found.head? = some e := h
    simp only [reduceCtorEq, exists_false, false_iff]
    rintro rfl
    simp at h'

/-- A check that goes on after another one: its own findings come behind. -/
theorem bind {next : α → Except ε β} {more : List ε} (h : Reports r found)
    (hn : ∀ a, r = .ok a → Reports (next a) more) : Reports (r >>= next) (found ++ more) := by
  cases r with
  | ok a =>
    have h' : found = [] := h
    rw [h', List.nil_append]
    exact hn a rfl
  | error e =>
    have h' : found.head? = some e := h
    show (found ++ more).head? = some e
    rw [List.head?_append, h', Option.some_or]

theorem map (h : Reports r found) (g : α → β) : Reports (g <$> r) found := by
  cases r with
  | ok a => exact h
  | error e => exact h

theorem mapError (h : Reports r found) (g : ε → ε') : Reports (r.mapError g) (found.map g) := by
  cases r with
  | ok a =>
    have h' : found = [] := h
    rw [h']
    exact ok a
  | error e =>
    have h' : found.head? = some e := h
    show (found.map g).head? = some (g e)
    rw [List.head?_map, h', Option.map_some]

/-- A check of every item of a list. -/
theorem mapM {f : α → Except ε β} {find : α → List ε} {items : List α}
    (h : ∀ a ∈ items, Reports (f a) (find a)) : Reports (items.mapM f) (items.flatMap find) := by
  induction items with
  | nil => exact ok []
  | cons a rest ih =>
    rw [List.mapM_cons, List.flatMap_cons]
    refine (h a (by simp)).bind fun b _ => ?_
    have hrest := ih fun x hx => h x (by simp [hx])
    exact hrest.map (b :: ·)

end Reports

/-! ### Findings that depend on the items before -/

/-- The findings of a list item by item.  Each item is looked at together with the items before it. -/
def inOrder (find : List α → α → List β) (before : List α) : List α → List β
  | [] => []
  | a :: rest => find before a ++ inOrder find (before ++ [a]) rest

/-- What is found in two parts is nothing if it is nothing in both of them. -/
theorem inOrder_eq_nil_iff_and {γ δ : Type} {find : List α → α → List β} {first : List α → α → List γ}
    {second : List α → α → List δ}
    (h : ∀ before a, find before a = [] ↔ first before a = [] ∧ second before a = []) (before items : List α) :
    inOrder find before items = [] ↔ inOrder first before items = [] ∧ inOrder second before items = [] := by
  induction items generalizing before with
  | nil => simp [inOrder]
  | cons a rest ih =>
    simp only [inOrder, List.append_eq_nil_iff, h, ih]
    tauto

theorem inOrder_const (find : α → List β) (before items : List α) :
    inOrder (fun _ a => find a) before items = items.flatMap find := by
  induction items generalizing before with
  | nil => rfl
  | cons a rest ih => rw [inOrder, ih, List.flatMap_cons]

theorem inOrder_append (find : List α → α → List β) (before items more : List α) :
    inOrder find before (items ++ more) = inOrder find before items ++ inOrder find (before ++ items) more := by
  induction items generalizing before with
  | nil => rw [List.nil_append, List.append_nil, inOrder, List.nil_append]
  | cons a rest ih =>
    rw [List.cons_append, inOrder, inOrder, ih, List.append_assoc, List.append_assoc]
    rfl

/-! ### Where the first finding comes from -/

section Head

variable {b : β}

/-- A finding with which the first ones do not begin comes first only if there are no such. -/
theorem head?_append_eq_some_iff_of_ne_left {first second : List β} (h : first.head? ≠ some b) :
    (first ++ second).head? = some b ↔ first = [] ∧ second.head? = some b := by
  cases first with
  | nil => simp
  | cons a rest =>
    have hne : a ≠ b := fun e => h (congrArg some e)
    simp [hne]

/-- A finding with which the later ones do not begin comes first only among the first. -/
theorem head?_append_eq_some_iff_of_ne_right {first second : List β} (h : second.head? ≠ some b) :
    (first ++ second).head? = some b ↔ first.head? = some b := by
  cases first with
  | nil => simp [h]
  | cons a rest => simp

/-- The first finding is one at an item without findings before it. -/
theorem head?_inOrder_eq_some_iff {find : List α → α → List β} {before items : List α} :
    (inOrder find before items).head? = some b ↔
      ∃ earlier a later, items = earlier ++ a :: later ∧ inOrder find before earlier = [] ∧
        (find (before ++ earlier) a).head? = some b := by
  induction items generalizing before with
  | nil => simp [inOrder]
  | cons first rest ih =>
    rw [inOrder]
    constructor
    · intro h
      by_cases hfirst : find before first = []
      · rw [hfirst, List.nil_append] at h
        obtain ⟨earlier, a, later, rfl, hnone, hfound⟩ := ih.1 h
        refine ⟨first :: earlier, a, later, rfl, ?_, ?_⟩
        · rw [inOrder, hfirst, hnone, List.nil_append]
        · rwa [List.append_assoc] at hfound
      · rw [List.head?_append_of_ne_nil _ hfirst] at h
        refine ⟨[], first, rest, rfl, rfl, ?_⟩
        rwa [List.append_nil]
    · rintro ⟨_ | ⟨first', earlier⟩, a, later, heq, hnone, hfound⟩
      · cases heq
        rw [List.append_nil] at hfound
        rw [List.head?_append, hfound, Option.some_or]
      · cases heq
        rw [inOrder, List.append_eq_nil_iff] at hnone
        rw [hnone.1, List.nil_append]
        refine ih.2 ⟨earlier, a, later, rfl, hnone.2, ?_⟩
        rwa [List.append_assoc]

/-- The same for findings that do not depend on the items before. -/
theorem head?_flatMap_eq_some_iff {find : α → List β} {items : List α} :
    (items.flatMap find).head? = some b ↔
      ∃ earlier a later, items = earlier ++ a :: later ∧ (∀ x ∈ earlier, find x = []) ∧ (find a).head? = some b := by
  rw [← inOrder_const find [] items, head?_inOrder_eq_some_iff]
  simp only [inOrder_const, List.flatMap_eq_nil_iff]

/-- What a check that stops has found. -/
def findings : Except ε α → List ε
  | .ok _ => []
  | .error e => [e]

theorem reports_findings (r : Except ε α) : Reports r (findings r) := by
  cases r with
  | ok a => exact .ok a
  | error e => exact .error e []

/-- A check of every item of a list succeeds exactly if that of each item does. -/
theorem exists_mapM_eq_ok_iff {f : α → Except ε β} {items : List α} :
    (∃ results, items.mapM f = .ok results) ↔ ∀ a ∈ items, ∃ b, f a = .ok b := by
  rw [(Reports.mapM fun a _ => reports_findings (f a)).exists_ok_iff, List.flatMap_eq_nil_iff]
  simp only [(reports_findings _).exists_ok_iff]

/-- A check of every item of a list fails as that of the first item does that fails. -/
theorem mapM_eq_error_iff {f : α → Except ε β} {items : List α} {e : ε} : items.mapM f = .error e ↔
    ∃ earlier a later, items = earlier ++ a :: later ∧ (∀ x ∈ earlier, ∃ b, f x = .ok b) ∧ f a = .error e := by
  rw [(Reports.mapM fun a _ => reports_findings (f a)).eq_error_iff, head?_flatMap_eq_some_iff]
  simp only [(reports_findings _).exists_ok_iff, (reports_findings _).eq_error_iff]

/-- Where a list is split at an item, a list of counterparts is split at the counterpart of the item. -/
theorem exists_split_map_iff (f : α → β) (items : List α) (p q : β → Prop) :
    (∃ earlier a later, items = earlier ++ a :: later ∧ (∀ x ∈ earlier, p (f x)) ∧ q (f a)) ↔
      ∃ earlier b later, items.map f = earlier ++ b :: later ∧ (∀ y ∈ earlier, p y) ∧ q b := by
  constructor
  · rintro ⟨earlier, a, later, rfl, hp, hq⟩
    refine ⟨earlier.map f, f a, later.map f, ?_, List.forall_mem_map.2 hp, hq⟩
    rw [List.map_append, List.map_cons]
  · rintro ⟨_, _, _, heq, hp, hq⟩
    obtain ⟨earlier, rest, rfl, rfl, hrest⟩ := List.map_eq_append_iff.1 heq
    obtain ⟨a, later, rfl, rfl, rfl⟩ := List.map_eq_cons_iff.1 hrest
    exact ⟨earlier, a, later, rfl, List.forall_mem_map.1 hp, hq⟩

/-- What is found in a list is found at one of its items, behind those before it. -/
theorem mem_inOrder_iff {find : List α → α → List β} {before items : List α} :
    b ∈ inOrder find before items ↔
      ∃ earlier a later, items = earlier ++ a :: later ∧ b ∈ find (before ++ earlier) a := by
  induction items generalizing before with
  | nil => simp [inOrder]
  | cons first rest ih =>
    rw [inOrder, List.mem_append, ih]
    constructor
    · rintro (hfirst | ⟨earlier, a, later, rfl, hmem⟩)
      · exact ⟨[], first, rest, rfl, by rwa [List.append_nil]⟩
      · exact ⟨first :: earlier, a, later, rfl, by rwa [List.append_assoc] at hmem⟩
    · rintro ⟨_ | ⟨first', earlier⟩, a, later, heq, hmem⟩
      · cases heq
        rw [List.append_nil] at hmem
        exact .inl hmem
      · cases heq
        refine .inr ⟨earlier, a, later, rfl, ?_⟩
        rwa [List.append_assoc]

end Head

/-- A loop over a list whose state sums up the items before the current one.  If it ends, its state sums up all of
them. -/
theorem Reports.foldlM {f : σ → α → Except ε σ} {state : List α → σ} {find : List α → α → List ε}
    (h : ∀ before a, Reports (f (state before) a) (find before a))
    (hs : ∀ before a s, f (state before) a = .ok s → s = state (before ++ [a])) (before items : List α) :
    Reports (items.foldlM f (state before)) (inOrder find before items) ∧
      ∀ s, items.foldlM f (state before) = .ok s → s = state (before ++ items) := by
  induction items generalizing before with
  | nil =>
    refine ⟨Reports.pure _, fun s hok => ?_⟩
    rw [List.append_nil]
    exact (Except.ok.inj hok).symm
  | cons a rest ih =>
    rw [List.foldlM_cons]
    -- Only a first step that ends hands its state on, and this state sums up one item more.
    constructor
    · refine (h before a).bind fun s hok => ?_
      rw [hs before a s hok]
      exact (ih (before ++ [a])).1
    · intro s hok
      cases hstep : f (state before) a with
      | error e =>
        rw [hstep] at hok
        cases hok
      | ok next =>
        rw [hstep, hs before a next hstep] at hok
        rw [(ih (before ++ [a])).2 s hok, List.append_assoc]
        rfl

/-! ### Repetitions -/

section Repetitions

variable {κ : Type} {key : α → Option κ} {before : List α} {seen : List κ} {a : α} {k : κ}

/-- A list that holds exactly the keys of some items. -/
def KeysOf (key : α → Option κ) (items : List α) (seen : List κ) : Prop :=
  ∀ k, k ∈ seen ↔ some k ∈ items.map key

theorem KeysOf.nil : KeysOf key [] [] := by
  intro k
  simp

theorem KeysOf.skip (h : KeysOf key before seen) (ha : key a = none) : KeysOf key (before ++ [a]) seen := by
  intro k
  rw [h k]
  simp [ha]

theorem KeysOf.add (h : KeysOf key before seen) (ha : key a = some k) : KeysOf key (before ++ [a]) (k :: seen) := by
  intro k'
  rw [List.mem_cons, h k', List.map_append, List.mem_append, List.map_singleton, ha]
  simp [or_comm]

variable [DecidableEq κ] {report : α → β}

/-- The finding at an item whose key is the key of an item before it.  An item without a key repeats nothing. -/
def repetition (key : α → Option κ) (report : α → β) (before : List α) (a : α) : List β :=
  if key a ≠ none ∧ key a ∈ before.map key then [report a] else []

theorem repetition_of_none (ha : key a = none) : repetition key report before a = [] := by
  simp [repetition, ha]

theorem KeysOf.repetition_of_mem (h : KeysOf key before seen) (ha : key a = some k) (hk : k ∈ seen) :
    repetition key report before a = [report a] := by
  unfold repetition
  rw [ha, if_pos ⟨Option.some_ne_none k, (h k).1 hk⟩]

theorem KeysOf.repetition_of_not_mem (h : KeysOf key before seen) (ha : key a = some k) (hk : k ∉ seen) :
    repetition key report before a = [] := by
  unfold repetition
  rw [ha, if_neg fun hold => hk ((h k).2 hold.2)]

/-- A run that stops at an item with the key of an item before it reports this first. -/
theorem KeysOf.reports_ite {γ : Type} (h : KeysOf key before seen) (ha : key a = some k) (report : α → β)
    {r : Except β γ} {found : List β} (hr : Reports r found) :
    Reports (if k ∈ seen then .error (report a) else r) (repetition key report before a ++ found) := by
  by_cases hk : k ∈ seen
  · rw [if_pos hk, h.repetition_of_mem ha hk]
    exact .error _ _
  · rwa [if_neg hk, h.repetition_of_not_mem ha hk, List.nil_append]

/-- Nothing is repeated, neither among the items nor from those before them. -/
theorem inOrder_repetition_eq_nil_iff {items : List α} :
    inOrder (repetition key report) before items = [] ↔
      (items.filterMap key).Nodup ∧ ∀ k ∈ items.filterMap key, some k ∉ before.map key := by
  induction items generalizing before with
  | nil => simp [inOrder]
  | cons a rest ih =>
    rw [inOrder, List.append_eq_nil_iff, ih]
    -- An item without a key neither repeats one nor is repeated.
    cases hk : key a with
    | none => simp [repetition, hk]
    | some k =>
      have hfirst : repetition key report before a = [] ↔ some k ∉ before.map key := by simp [repetition, hk]
      have hseen : ∀ k', some k' ∉ (before ++ [a]).map key ↔ some k' ∉ before.map key ∧ k' ≠ k := by
        simp [hk]
      rw [hfirst, List.filterMap_cons_some hk, List.nodup_cons, List.forall_mem_cons]
      simp only [hseen]
      constructor
      · rintro ⟨hnew, hnodup, hrest⟩
        exact ⟨⟨fun hmem => (hrest k hmem).2 rfl, hnodup⟩, hnew, fun k' hk' => (hrest k' hk').1⟩
      · rintro ⟨⟨hmem, hnodup⟩, hnew, hrest⟩
        exact ⟨hnew, hnodup, fun k' hk' => ⟨hrest k' hk', fun e => hmem (e ▸ hk')⟩⟩

theorem inOrder_repetition_nil_eq_nil_iff {items : List α} :
    inOrder (repetition key report) [] items = [] ↔ (items.filterMap key).Nodup := by
  rw [inOrder_repetition_eq_nil_iff]
  simp

end Repetitions

end TableSchema
