/-!
# Dictionaries

A dictionary is a list of keys with their values, in the order in which the keys first came.  `assign` gives a key a
value and leaves a key that is there at its place.

Main statements: `keys_assign` tells the keys after an assignment, and `find?_assign` what is found.  No key of
`ofList` is repeated (`nodup_keys_ofList`); entries without repeated keys are a dictionary as they are
(`ofList_eq_self`).  With repeated keys the last value counts (`mem_ofList_iff`), at the place of the first one
(`pairwise_keys_ofList`).
-/

namespace TableSchema.Dictionary

variable {κ α : Type} [DecidableEq κ]

/-- Gives a key a value.  A key that is there keeps its place. -/
def assign (key : κ) (value : α) : List (κ × α) → List (κ × α)
  | [] => [(key, value)]
  | (k, v) :: rest => if k = key then (key, value) :: rest else (k, v) :: assign key value rest

/-- Gives keys values one after the other. -/
def ofList (entries : List (κ × α)) : List (κ × α) :=
  entries.foldl (fun dictionary entry => assign entry.1 entry.2 dictionary) []

/-- The value of a key. -/
def find? (key : κ) (dictionary : List (κ × α)) : Option α :=
  (List.find? (fun entry => entry.1 = key) dictionary).map (·.2)

theorem keys_assign (key : κ) (value : α) (d : List (κ × α)) :
    (assign key value d).map (·.1) = if key ∈ d.map (·.1) then d.map (·.1) else d.map (·.1) ++ [key] := by
  induction d with
  | nil => simp [assign]
  | cons entry rest ih =>
    obtain ⟨k, v⟩ := entry
    by_cases h : k = key
    · simp [assign, h]
    · have h' : key ≠ k := fun e => h e.symm
      simp only [assign, h, if_false, List.map_cons, ih, List.mem_cons, h', false_or]
      split <;> simp

theorem nodup_keys_assign {key : κ} {value : α} {d : List (κ × α)} (h : (d.map (·.1)).Nodup) :
    ((assign key value d).map (·.1)).Nodup := by
  rw [keys_assign]
  split
  · exact h
  · rename_i hnew
    refine List.nodup_append.2 ⟨h, List.nodup_cons.2 ⟨List.not_mem_nil, List.nodup_nil⟩, ?_⟩
    rintro k hk _ hkey rfl
    exact hnew (List.mem_singleton.1 hkey ▸ hk)

theorem find?_assign (key other : κ) (value : α) (d : List (κ × α)) :
    find? other (assign key value d) = if other = key then some value else find? other d := by
  induction d with
  | nil =>
    by_cases h : other = key
    · simp [assign, find?, h]
    · have h' : key ≠ other := fun e => h e.symm
      simp [assign, find?, h, h']
  | cons entry rest ih =>
    obtain ⟨k, v⟩ := entry
    unfold find? at ih ⊢
    by_cases h : k = key
    · subst h
      by_cases ho : other = k
      · simp [assign, ho]
      · have h' : k ≠ other := fun e => ho e.symm
        simp [assign, ho, h']
    · by_cases ho : k = other
      · subst ho
        simp [assign, h]
      · simp [assign, h, ho, ih]

/-- A new key comes last. -/
theorem assign_of_not_mem {key : κ} {d : List (κ × α)} (h : key ∉ d.map (·.1)) (value : α) :
    assign key value d = d ++ [(key, value)] := by
  induction d with
  | nil => rfl
  | cons entry rest ih =>
    obtain ⟨k, v⟩ := entry
    rw [List.map_cons, List.mem_cons, not_or] at h
    rw [assign, if_neg (Ne.symm h.1), ih h.2, List.cons_append]

theorem foldl_assign {d entries : List (κ × α)} (h : ((d ++ entries).map (·.1)).Nodup) :
    entries.foldl (fun dictionary entry => assign entry.1 entry.2 dictionary) d = d ++ entries := by
  induction entries generalizing d with
  | nil => simp
  | cons entry entries ih =>
    have hnew : entry.1 ∉ d.map (·.1) := by
      rw [List.map_append, List.map_cons] at h
      exact fun hmem => (List.nodup_append.1 h).2.2 _ hmem _ List.mem_cons_self rfl
    rw [List.foldl_cons, assign_of_not_mem hnew, ih (by simpa using h), List.append_assoc]
    rfl

theorem ofList_eq_self {entries : List (κ × α)} (h : (entries.map (·.1)).Nodup) : ofList entries = entries :=
  foldl_assign h

theorem nodup_keys_ofList (entries : List (κ × α)) : ((ofList entries).map (·.1)).Nodup := by
  have hkeys : ∀ d : List (κ × α), (d.map (·.1)).Nodup →
      ((entries.foldl (fun dictionary entry => assign entry.1 entry.2 dictionary) d).map (·.1)).Nodup := by
    induction entries with
    | nil => exact fun d hd => hd
    | cons entry entries ih => exact fun d hd => ih _ (nodup_keys_assign hd)
  exact hkeys [] List.nodup_nil

theorem mem_assign_iff {key : κ} {value : α} {d : List (κ × α)} (h : (d.map (·.1)).Nodup) {entry : κ × α} :
    entry ∈ assign key value d ↔ entry = (key, value) ∨ entry ∈ d ∧ entry.1 ≠ key := by
  induction d with
  | nil => simp [assign]
  | cons first rest ih =>
    obtain ⟨k, v⟩ := first
    obtain ⟨hnew, hrest⟩ := List.nodup_cons.1 h
    have hkey : ∀ other ∈ rest, other.1 ≠ k := fun other hother heq =>
      hnew (List.mem_map.2 ⟨other, hother, heq⟩)
    by_cases hk : k = key
    · subst hk
      rw [assign, if_pos rfl, List.mem_cons, List.mem_cons]
      constructor
      · rintro (heq | hmem)
        · exact .inl heq
        · exact .inr ⟨.inr hmem, hkey entry hmem⟩
      · rintro (heq | ⟨rfl | hmem, hne⟩)
        · exact .inl heq
        · exact absurd rfl hne
        · exact .inr hmem
    · rw [assign, if_neg hk, List.mem_cons, ih hrest, List.mem_cons]
      constructor
      · rintro (rfl | heq | ⟨hmem, hne⟩)
        · exact .inr ⟨.inl rfl, hk⟩
        · exact .inl heq
        · exact .inr ⟨.inr hmem, hne⟩
      · rintro (heq | ⟨heq | hmem, hne⟩)
        · exact .inr (.inl heq)
        · exact .inl heq
        · exact .inr (.inr ⟨hmem, hne⟩)

theorem mem_foldl_assign_iff {d entries : List (κ × α)} (h : (d.map (·.1)).Nodup) {entry : κ × α} :
    entry ∈ entries.foldl (fun dictionary entry => assign entry.1 entry.2 dictionary) d ↔
      (∃ before behind, entries = before ++ entry :: behind ∧ entry.1 ∉ behind.map (·.1)) ∨
        entry ∈ d ∧ entry.1 ∉ entries.map (·.1) := by
  induction entries generalizing d with
  | nil => simp
  | cons first entries ih =>
    rw [List.foldl_cons, ih (nodup_keys_assign h), mem_assign_iff h, List.map_cons, List.mem_cons, not_or]
    constructor
    · rintro (⟨before, behind, rfl, hlast⟩ | ⟨rfl | ⟨hmem, hne⟩, hlast⟩)
      · exact .inl ⟨first :: before, behind, rfl, hlast⟩
      · exact .inl ⟨[], entries, rfl, hlast⟩
      · exact .inr ⟨hmem, hne, hlast⟩
    · rintro (⟨before, behind, heq, hlast⟩ | ⟨hmem, hne, hlast⟩)
      · cases before with
        | nil =>
          obtain ⟨rfl, rfl⟩ := List.cons.inj heq
          exact .inr ⟨.inl rfl, hlast⟩
        | cons other before =>
          obtain ⟨-, rfl⟩ := List.cons.inj heq
          exact .inl ⟨before, behind, rfl, hlast⟩
      · exact .inr ⟨.inr ⟨hmem, hne⟩, hlast⟩

/-- The last value that is given to a key counts. -/
theorem mem_ofList_iff {entries : List (κ × α)} {entry : κ × α} : entry ∈ ofList entries ↔
    ∃ before behind, entries = before ++ entry :: behind ∧ entry.1 ∉ behind.map (·.1) := by
  rw [ofList, mem_foldl_assign_iff (by simp)]
  exact or_iff_left fun h => List.not_mem_nil h.1

/-- Keys stand in the order in which they first came. -/
theorem pairwise_keys_ofList (entries : List (κ × α)) : ((ofList entries).map (·.1)).Pairwise fun a b =>
    (entries.map (·.1)).idxOf a < (entries.map (·.1)).idxOf b := by
  -- what is folded over so far holds the keys of the dictionary, each at the place where it first came
  have hkeys : ∀ (d : List (κ × α)) (seen : List κ), (∀ k, k ∈ d.map (·.1) ↔ k ∈ seen) →
      (d.map (·.1)).Pairwise (fun a b => seen.idxOf a < seen.idxOf b) →
      ((entries.foldl (fun dictionary entry => assign entry.1 entry.2 dictionary) d).map (·.1)).Pairwise fun a b =>
        (seen ++ entries.map (·.1)).idxOf a < (seen ++ entries.map (·.1)).idxOf b := by
    induction entries with
    | nil => simp
    | cons first entries ih =>
      intro d seen hseen hpairwise
      have hstep := ih (assign first.1 first.2 d) (seen ++ [first.1])
      rw [List.append_assoc] at hstep
      refine hstep (fun k => ?_) ?_
      · rw [keys_assign]
        split
        · rename_i hfirst
          rw [hseen, List.mem_append, List.mem_singleton, iff_self_or]
          rintro rfl
          exact (hseen _).1 hfirst
        · rw [List.mem_append, List.mem_append, hseen]
      · have hkept : (d.map (·.1)).Pairwise fun a b =>
            (seen ++ [first.1]).idxOf a < (seen ++ [first.1]).idxOf b := by
          refine hpairwise.imp_of_mem fun {a b} ha hb hlt => ?_
          rwa [List.idxOf_append, if_pos ((hseen a).1 ha), List.idxOf_append, if_pos ((hseen b).1 hb)]
        rw [keys_assign]
        split
        · exact hkept
        · rename_i hfirst
          refine List.pairwise_append.2 ⟨hkept, List.pairwise_singleton _ _, fun a ha b hb => ?_⟩
          obtain rfl := List.mem_singleton.1 hb
          rw [List.idxOf_append, if_pos ((hseen a).1 ha), List.idxOf_append, if_neg fun h => hfirst ((hseen _).2 h)]
          have hlt := List.idxOf_lt_length_of_mem ((hseen a).1 ha)
          omega
  exact hkeys [] [] (fun _ => Iff.rfl) List.Pairwise.nil

end TableSchema.Dictionary
