import Mathlib.Data.List.Basic

/-!
# Runs of an event callback

A callback is called once for each input, keeps a state between the calls and
performs actions; an exception that escapes it ends the run, with the actions
performed so far.

* `run_append`: a run over `is ++ js` is the run over `is` continued over `js`.
* `actions_run_cons`, `actions_run_concat`: the actions of a run whose calls leave the
  state alone.
* `actions_run_cons_cons_eq_iff`: when two calls or more perform what one call does.
* `mem_actions_run_of_const`, `mem_read_run_of_const`, `actions_run_pair_of_const`: a
  callback that does the same on every call.
-/

namespace Callback

variable {σ ι α : Type*}

/-- What one call, or a run, leaves behind. `escaped` says that an exception left
    it. -/
structure Outcome (σ α : Type*) where
  state : σ
  actions : List α
  escaped : Bool := false
  deriving DecidableEq, Repr

/-- The calls of `callback` for the inputs in order, up to the first that an
    exception escapes. -/
def run (callback : σ → ι → Outcome σ α) : σ → List ι → Outcome σ α
  | s, [] => { state := s, actions := [] }
  | s, i :: is =>
    let first := callback s i
    if first.escaped then first
    else
      let rest := run callback first.state is
      { state := rest.state
        actions := first.actions ++ rest.actions
        escaped := rest.escaped }

variable {callback : σ → ι → Outcome σ α} {s : σ}

theorem run_cons_of_escaped {i : ι} (h : (callback s i).escaped = true) (is : List ι) :
    run callback s (i :: is) = callback s i := by
  rw [run]
  exact if_pos h

theorem run_cons_of_not_escaped {i : ι} (h : (callback s i).escaped = false) (is : List ι) :
    run callback s (i :: is) =
      { state := (run callback (callback s i).state is).state
        actions := (callback s i).actions ++ (run callback (callback s i).state is).actions
        escaped := (run callback (callback s i).state is).escaped } := by
  rw [run]
  exact if_neg (by simp [h])

/-- A run over one input is the call. -/
theorem run_singleton (callback : σ → ι → Outcome σ α) (s : σ) (i : ι) :
    run callback s [i] = callback s i := by
  cases h : (callback s i).escaped with
  | true => exact run_cons_of_escaped h []
  | false =>
    rw [run_cons_of_not_escaped h]
    simp only [run, List.append_nil, ← h]

/-- A run over `is ++ js` is the run over `is`, continued over `js` unless an exception
    escaped it. -/
theorem run_append (callback : σ → ι → Outcome σ α) (s : σ) (is js : List ι) :
    run callback s (is ++ js) =
      if (run callback s is).escaped then run callback s is
      else
        { state := (run callback (run callback s is).state js).state
          actions := (run callback s is).actions ++
            (run callback (run callback s is).state js).actions
          escaped := (run callback (run callback s is).state js).escaped } := by
  induction is generalizing s with
  | nil => simp [run]
  | cons i is ih =>
    rw [List.cons_append]
    cases h : (callback s i).escaped with
    | true => rw [run_cons_of_escaped h, run_cons_of_escaped h, if_pos h]
    | false =>
      rw [run_cons_of_not_escaped h, run_cons_of_not_escaped h, ih]
      split_ifs with hrest
      · rfl
      · simp only [List.append_assoc]

/-! ## Callbacks that leave the state alone -/

/-- Every call of `callback` on `s` leaves `s`. -/
def Preserves (callback : σ → ι → Outcome σ α) (s : σ) : Prop := ∀ i, (callback s i).state = s

theorem actions_run_cons (h : Preserves callback s) (i : ι) (is : List ι) :
    (run callback s (i :: is)).actions =
      (callback s i).actions ++
        if (callback s i).escaped then [] else (run callback s is).actions := by
  cases hesc : (callback s i).escaped with
  | true =>
    rw [run_cons_of_escaped hesc]
    simp
  | false =>
    rw [run_cons_of_not_escaped hesc, h i]
    simp

/-- The state after a run is the one before it. -/
theorem state_run (h : Preserves callback s) (is : List ι) : (run callback s is).state = s := by
  induction is with
  | nil => rfl
  | cons i is ih =>
    cases hesc : (callback s i).escaped with
    | true => rw [run_cons_of_escaped hesc, h i]
    | false => rw [run_cons_of_not_escaped hesc, h i, ih]

/-- A last call that performs nothing makes no difference. -/
theorem actions_run_concat (h : Preserves callback s) (is : List ι) {j : ι}
    (hj : (callback s j).actions = []) :
    (run callback s (is ++ [j])).actions = (run callback s is).actions := by
  rw [run_append]
  split_ifs with hesc
  · rfl
  · show (run callback s is).actions ++ _ = _
    rw [state_run h, run_singleton, hj, List.append_nil]

/-- Calls that perform nothing make a run that performs nothing. -/
theorem actions_run_eq_nil (h : Preserves callback s) (hnil : ∀ i, (callback s i).actions = [])
    (is : List ι) : (run callback s is).actions = [] := by
  induction is with
  | nil => rfl
  | cons i is ih =>
    rw [actions_run_cons h, hnil i, ih]
    simp

/-- Suppose that no single call performs as many actions as two calls that nothing
    escapes. Then a run of two calls or more performs the actions of the one call on
    `whole` only when an exception escapes its first or its second call. -/
theorem actions_run_cons_cons_eq_iff (h : Preserves callback s) {i j whole : ι}
    (hlen : (callback s i).escaped = false → (callback s j).escaped = false →
      (callback s whole).actions.length <
        (callback s i).actions.length + (callback s j).actions.length) (is : List ι) :
    (run callback s (i :: j :: is)).actions = (callback s whole).actions ↔
      ((callback s i).escaped = true ∧ (callback s i).actions = (callback s whole).actions) ∨
      ((callback s i).escaped = false ∧ (callback s j).escaped = true ∧
        (callback s i).actions ++ (callback s j).actions = (callback s whole).actions) := by
  rw [actions_run_cons h, actions_run_cons h]
  cases hi : (callback s i).escaped with
  | true => simp
  | false =>
    cases hj : (callback s j).escaped with
    | true => simp
    | false =>
      simp only [Bool.false_eq_true, if_false, false_and, and_false, or_self, iff_false]
      intro heq
      have hlt := hlen hi hj
      have hlength := congrArg List.length heq
      simp only [List.length_append] at hlength
      omega

/-! ## Callbacks that do the same on every call -/

variable {out : Outcome σ α}

/-- A run of at least one call performs an action exactly when each call does. -/
theorem mem_actions_run_of_const (hconst : ∀ i, callback s i = out) (hstate : out.state = s)
    (is : List ι) (i : ι) (a : α) :
    a ∈ (run callback s (is ++ [i])).actions ↔ a ∈ out.actions := by
  have hpres : Preserves callback s := fun i => by rw [hconst i, hstate]
  induction is with
  | nil => rw [List.nil_append, run_singleton, hconst]
  | cons j is ih =>
    rw [List.cons_append, actions_run_cons hpres, hconst j, List.mem_append]
    split_ifs with hesc
    · simp
    · exact (or_congr_right ih).trans (or_self_iff)

/-- Let `read` extract something from a list of actions, one call after the other. What
    it extracts from a run is what it extracts from a call. -/
theorem mem_read_run_of_const {β : Type*} (read : List α → List β) (hnil : read [] = [])
    (hread : ∀ rest, read (out.actions ++ rest) = read out.actions ++ read rest)
    (hconst : ∀ i, callback s i = out) (hstate : out.state = s) (is : List ι) {b : β}
    (h : b ∈ read (run callback s is).actions) : b ∈ read out.actions := by
  have hpres : Preserves callback s := fun i => by rw [hconst i, hstate]
  induction is with
  | nil =>
    rw [run, hnil] at h
    exact absurd h List.not_mem_nil
  | cons i is ih =>
    rw [actions_run_cons hpres, hconst i, hread, List.mem_append] at h
    rcases h with hfirst | hrest
    · exact hfirst
    · split_ifs at hrest with hesc
      · rw [hnil] at hrest
        exact absurd hrest List.not_mem_nil
      · exact ih hrest

/-- Two calls perform the actions twice, unless an exception escapes the first. -/
theorem actions_run_pair_of_const (hconst : ∀ i, callback s i = out) (hstate : out.state = s)
    (i j : ι) :
    (run callback s [i, j]).actions =
      out.actions ++ if out.escaped then [] else out.actions := by
  have hpres : Preserves callback s := fun i => by rw [hconst i, hstate]
  rw [actions_run_cons hpres, run_singleton, hconst, hconst]

end Callback
