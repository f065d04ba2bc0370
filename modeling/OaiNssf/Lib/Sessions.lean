import OaiNssf.Lib.Callback

/-!
# Callbacks that answer from their input

A callback with a state may still decide what it does from its input alone: on every state
that an invariant allows, a call performs the actions of a fixed `Answer` and keeps the
invariant. A run is then a `flatMap` over the inputs that are handled, and when inputs carry
the session they belong to, each session is answered as if it were alone, however the
sessions are interleaved.

* `Answers.run_actions`, `Answers.run_escaped`: a run of such a callback.
* `read_flatMap`: what is read off the actions of such a run, response by response.
* `ofSession_run`: what one session sees of a run, as a run of its own.
* `run_of_ofSession_eq`: two interleavings of the same calls.
-/

namespace Callback

variable {σ σ' ι α κ : Type*}

/-- What a call does: its actions, and whether an exception escapes it. -/
structure Answer (α : Type*) where
  actions : List α
  escaped : Bool := false
  deriving DecidableEq, Repr

/-- On the states that `inv` allows, a call performs the actions of `answer` on its input,
    whatever the state, and leaves such a state. -/
structure Answers (callback : σ → ι → Outcome σ α) (inv : σ → Prop) (answer : ι → Answer α) :
    Prop where
  actions : ∀ {s}, inv s → ∀ i, (callback s i).actions = (answer i).actions
  escaped : ∀ {s}, inv s → ∀ i, (callback s i).escaped = (answer i).escaped
  keeps : ∀ {s}, inv s → ∀ i, inv (callback s i).state

/-! ## The inputs that are handled -/

/-- The inputs up to the first one whose call an exception escapes, this one included. -/
def handled (answer : ι → Answer α) : List ι → List ι
  | [] => []
  | i :: is => if (answer i).escaped then [i] else i :: handled answer is

section Handled

variable {answer : ι → Answer α}

theorem handled_cons_of_escaped {i : ι} (h : (answer i).escaped = true) (is : List ι) :
    handled answer (i :: is) = [i] := by
  rw [handled]
  exact if_pos h

theorem handled_cons_of_not_escaped {i : ι} (h : (answer i).escaped = false) (is : List ι) :
    handled answer (i :: is) = i :: handled answer is := by
  rw [handled]
  exact if_neg (by simp [h])

theorem handled_isPrefix (is : List ι) : handled answer is <+: is := by
  induction is with
  | nil => exact List.prefix_refl []
  | cons i is ih =>
    cases h : (answer i).escaped with
    | true =>
      rw [handled_cons_of_escaped h]
      exact List.cons_prefix_cons.mpr ⟨rfl, List.nil_prefix⟩
    | false =>
      rw [handled_cons_of_not_escaped h]
      exact List.cons_prefix_cons.mpr ⟨rfl, ih⟩

/-- What is handled depends on where exceptions escape only. -/
theorem handled_congr {answer' : ι → Answer α}
    (h : ∀ i, (answer i).escaped = (answer' i).escaped) (is : List ι) :
    handled answer is = handled answer' is := by
  induction is with
  | nil => rfl
  | cons i is ih => rw [handled, handled, h i, ih]

/-- Without an escaping call, all inputs are handled. -/
theorem handled_eq_self {is : List ι} (h : ∀ i ∈ is, (answer i).escaped = false) :
    handled answer is = is := by
  induction is with
  | nil => rfl
  | cons i is ih =>
    have hrest : handled answer is = is := ih fun j hj => h j (List.mem_cons_of_mem i hj)
    rw [handled_cons_of_not_escaped (h i List.mem_cons_self), hrest]

/-- Nothing is handled after the first escaping call. -/
theorem handled_append_cons {is : List ι} {i : ι} (h : ∀ j ∈ is, (answer j).escaped = false)
    (hi : (answer i).escaped = true) (js : List ι) :
    handled answer (is ++ i :: js) = is ++ [i] := by
  induction is with
  | nil => exact handled_cons_of_escaped hi js
  | cons j is ih =>
    have hrest : handled answer (is ++ i :: js) = is ++ [i] :=
      ih fun j' hj' => h j' (List.mem_cons_of_mem j hj')
    rw [List.cons_append, handled_cons_of_not_escaped (h j List.mem_cons_self), hrest,
      List.cons_append]

end Handled

/-! ## Runs -/

section Runs

variable {callback : σ → ι → Outcome σ α} {inv : σ → Prop} {answer : ι → Answer α} {s : σ}

/-- The actions of a run are those of the handled calls, one after the other. -/
theorem Answers.run_actions (h : Answers callback inv answer) (hs : inv s) (is : List ι) :
    (run callback s is).actions = (handled answer is).flatMap fun i => (answer i).actions := by
  induction is generalizing s with
  | nil => rfl
  | cons i is ih =>
    cases hesc : (answer i).escaped with
    | true =>
      have hcall : (callback s i).escaped = true := by rw [h.escaped hs, hesc]
      rw [run_cons_of_escaped hcall, handled_cons_of_escaped hesc, h.actions hs]
      simp
    | false =>
      have hcall : (callback s i).escaped = false := by rw [h.escaped hs, hesc]
      rw [run_cons_of_not_escaped hcall, handled_cons_of_not_escaped hesc, List.flatMap_cons]
      show (callback s i).actions ++ (run callback (callback s i).state is).actions = _
      rw [h.actions hs, ih (h.keeps hs i)]

/-- An exception escapes a run when it escapes the call for one of the inputs. -/
theorem Answers.run_escaped (h : Answers callback inv answer) (hs : inv s) (is : List ι) :
    (run callback s is).escaped = true ↔ ∃ i ∈ is, (answer i).escaped = true := by
  induction is generalizing s with
  | nil => simp [run]
  | cons i is ih =>
    rw [List.exists_mem_cons_iff]
    cases hesc : (answer i).escaped with
    | true =>
      have hcall : (callback s i).escaped = true := by rw [h.escaped hs, hesc]
      rw [run_cons_of_escaped hcall, hcall]
      simp
    | false =>
      have hcall : (callback s i).escaped = false := by rw [h.escaped hs, hesc]
      rw [run_cons_of_not_escaped hcall]
      simpa using ih (h.keeps hs i)

/-- Unless an exception escapes the run, all inputs are handled. -/
theorem Answers.handled_of_not_escaped (h : Answers callback inv answer) (hs : inv s)
    {is : List ι} (hnot : (run callback s is).escaped = false) : handled answer is = is := by
  apply handled_eq_self
  intro i hi
  by_contra hesc
  have hrun : (run callback s is).escaped = true :=
    (h.run_escaped hs is).mpr ⟨i, hi, by simpa using hesc⟩
  simp [hnot] at hrun

/-- A run keeps the invariant. -/
theorem Answers.run_state (h : Answers callback inv answer) (hs : inv s) (is : List ι) :
    inv (run callback s is).state := by
  induction is generalizing s with
  | nil => exact hs
  | cons i is ih =>
    cases hcall : (callback s i).escaped with
    | true =>
      rw [run_cons_of_escaped hcall]
      exact h.keeps hs i
    | false =>
      rw [run_cons_of_not_escaped hcall]
      exact ih (h.keeps hs i)

/-- What a call does in this state. -/
def answerAt (callback : σ → ι → Outcome σ α) (s : σ) (i : ι) : Answer α where
  actions := (callback s i).actions
  escaped := (callback s i).escaped

/-- A callback that keeps a state answers every input as it does in this state. -/
theorem Preserves.answers (h : Preserves callback s) :
    Answers callback (· = s) (answerAt callback s) where
  actions hs i := by rw [hs, answerAt]
  escaped hs i := by rw [hs, answerAt]
  keeps hs i := by rw [hs, h i]

end Runs

/-! ## Reading responses off actions -/

/-- Let `read` extract from a list of actions what the calls respond, call by call. What it
    extracts from the actions of several calls are the responses of each. -/
theorem read_flatMap {β : Type*} {answer : ι → Answer α} {read : List α → List β}
    {reply : ι → Option β} (hnil : read [] = [])
    (hread : ∀ i rest, read ((answer i).actions ++ rest) = (reply i).toList ++ read rest)
    (is : List ι) : read (is.flatMap fun i => (answer i).actions) = is.filterMap reply := by
  induction is with
  | nil => exact hnil
  | cons i is ih =>
    rw [List.flatMap_cons, hread, ih]
    cases hreply : reply i with
    | none => exact (List.filterMap_cons_none hreply).symm
    | some b => exact (List.filterMap_cons_some hreply).symm

/-! ## Sessions -/

section Sessions

variable [DecidableEq κ]

/-- The items of a tagged list that belong to the session `k`, in their order. -/
def ofSession {β : Type*} (k : κ) (l : List (κ × β)) : List β :=
  l.filterMap fun item => if item.1 = k then some item.2 else none

section OfSession

variable {β : Type*} (k : κ)

@[simp] theorem ofSession_nil : ofSession k ([] : List (κ × β)) = [] := rfl

@[simp] theorem ofSession_cons_self (b : β) (l : List (κ × β)) :
    ofSession k ((k, b) :: l) = b :: ofSession k l := by
  simp [ofSession]

theorem ofSession_cons_of_ne {k' : κ} (h : k' ≠ k) (b : β) (l : List (κ × β)) :
    ofSession k ((k', b) :: l) = ofSession k l := by
  simp [ofSession, h]

theorem ofSession_append (l m : List (κ × β)) :
    ofSession k (l ++ m) = ofSession k l ++ ofSession k m :=
  List.filterMap_append

theorem mem_iff_mem_ofSession {call : κ × β} {l : List (κ × β)} :
    call ∈ l ↔ call.2 ∈ ofSession call.1 l := by
  obtain ⟨k, b⟩ := call
  constructor
  · intro h
    exact List.mem_filterMap.mpr ⟨(k, b), h, if_pos rfl⟩
  · intro h
    obtain ⟨⟨k', b'⟩, hmem, heq⟩ := List.mem_filterMap.mp h
    by_cases hk : k' = k
    · simp only [hk, if_true, Option.some.injEq] at heq
      rw [← heq, ← hk]
      exact hmem
    · simp [hk] at heq

/-- Actions tagged with one session. -/
theorem ofSession_map_pair_self (bs : List β) : ofSession k (bs.map (Prod.mk k)) = bs := by
  induction bs with
  | nil => rfl
  | cons b bs ih => rw [List.map_cons, ofSession_cons_self, ih]

theorem ofSession_map_pair_of_ne {k' : κ} (h : k' ≠ k) (bs : List β) :
    ofSession k (bs.map (Prod.mk k')) = [] := by
  induction bs with
  | nil => rfl
  | cons b bs ih => rw [List.map_cons, ofSession_cons_of_ne k h, ih]

end OfSession

/-- The answer to a call of a session, its actions tagged with the session. -/
def tagged (alone : κ → ι → Answer α) (call : κ × ι) : Answer (κ × α) where
  actions := (alone call.1 call.2).actions.map (Prod.mk call.1)
  escaped := (alone call.1 call.2).escaped

variable {alone : κ → ι → Answer α}

/-- What a session sees of the actions of some calls: those of its own calls. -/
theorem ofSession_flatMap_tagged (k : κ) (calls : List (κ × ι)) :
    ofSession k (calls.flatMap fun call => (tagged alone call).actions) =
      (ofSession k calls).flatMap fun i => (alone k i).actions := by
  induction calls with
  | nil => rfl
  | cons call calls ih =>
    obtain ⟨k', i⟩ := call
    rw [List.flatMap_cons, ofSession_append, ih]
    by_cases hk : k' = k
    · subst hk
      rw [ofSession_cons_self, List.flatMap_cons]
      exact congrArg (· ++ _) (ofSession_map_pair_self k' _)
    · have hnil : ofSession k (tagged alone (k', i)).actions = [] :=
        ofSession_map_pair_of_ne k hk _
      rw [ofSession_cons_of_ne k hk, hnil, List.nil_append]

/-- Of the handled calls, those of one session are all handled by the session alone: only
    the last one can be the one that an exception escapes. -/
theorem handled_ofSession_handled (k : κ) (calls : List (κ × ι)) :
    handled (alone k) (ofSession k (handled (tagged alone) calls)) =
      ofSession k (handled (tagged alone) calls) := by
  induction calls with
  | nil => rfl
  | cons call calls ih =>
    obtain ⟨k', i⟩ := call
    cases h : (tagged alone (k', i)).escaped with
    | true =>
      rw [handled_cons_of_escaped h]
      by_cases hk : k' = k
      · subst hk
        have halone : (alone k' i).escaped = true := h
        rw [ofSession_cons_self]
        exact handled_cons_of_escaped halone []
      · rw [ofSession_cons_of_ne k hk]
        rfl
    | false =>
      rw [handled_cons_of_not_escaped h]
      by_cases hk : k' = k
      · subst hk
        have halone : (alone k' i).escaped = false := h
        rw [ofSession_cons_self, handled_cons_of_not_escaped halone, ih]
      · rw [ofSession_cons_of_ne k hk, ih]

variable {server : σ → κ × ι → Outcome σ (κ × α)} {callback : κ → σ' → ι → Outcome σ' α}
  {inv : σ → Prop} {inv' : σ' → Prop} {s : σ} {s' : σ'}

/-- Let every call on the server do what the callback of its session does alone. Then a
    session sees, of a run of interleaved calls, the run of its callback over its own calls
    among those handled. -/
theorem ofSession_run (hserver : Answers server inv (tagged alone)) (hs : inv s)
    (hcallback : ∀ k, Answers (callback k) inv' (alone k)) (hs' : inv' s')
    (calls : List (κ × ι)) (k : κ) :
    ofSession k (run server s calls).actions =
      (run (callback k) s' (ofSession k (handled (tagged alone) calls))).actions := by
  rw [hserver.run_actions hs, ofSession_flatMap_tagged, (hcallback k).run_actions hs',
    handled_ofSession_handled]

/-- Let two interleavings consist of the same calls, session by session. An exception
    escapes both runs or none, and if none, they look the same to every session. -/
theorem run_of_ofSession_eq (hserver : Answers server inv (tagged alone)) (hs : inv s)
    {calls calls' : List (κ × ι)} (hsame : ∀ k, ofSession k calls = ofSession k calls') :
    (run server s calls).escaped = (run server s calls').escaped ∧
      ((run server s calls).escaped = false →
        ∀ k, ofSession k (run server s calls).actions =
          ofSession k (run server s calls').actions) := by
  have hmem : ∀ call, call ∈ calls ↔ call ∈ calls' := by
    intro call
    rw [mem_iff_mem_ofSession, mem_iff_mem_ofSession, hsame]
  have hesc : (run server s calls).escaped = (run server s calls').escaped := by
    rw [Bool.eq_iff_iff, hserver.run_escaped hs, hserver.run_escaped hs]
    simp only [hmem]
  refine ⟨hesc, ?_⟩
  intro hnot k
  rw [hserver.run_actions hs, hserver.run_actions hs, hserver.handled_of_not_escaped hs hnot,
    hserver.handled_of_not_escaped hs (hesc ▸ hnot), ofSession_flatMap_tagged,
    ofSession_flatMap_tagged, hsame]

end Sessions

end Callback
