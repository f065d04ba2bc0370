import Mathlib

/-!
# Last writer wins on lists with keys

A list of `(key, value)` pairs, possibly with repeated keys, read by first match
(`List.lookup`). `upsert` replaces the value of the first entry with a key, or
appends an entry. Abstractly the list is a partial map and `upsert` sets one of its
values; the list keeps more, namely the order and the shadowed entries.

* `lookup_foldl_upsert`: after a run of writes the last write to a key wins.
* `foldl_upsert_eq_self_iff`: a run of writes gives the list back exactly when
  the last write to each key writes the value the key already has.

The second half is the same for a list of records that each hold such a list
(`Nested`): a write names a record by its key and an entry in it, and reaches the
first record with that key (`Nested.put`).
-/

namespace KeyedList

variable {α κ κ' ν : Type*} [DecidableEq κ] [DecidableEq κ']

theorem lookup_cons_ite (k k' : κ) (v : ν) (l : List (κ × ν)) :
    List.lookup k ((k', v) :: l) = if k = k' then some v else List.lookup k l := by
  rw [List.lookup_cons]
  by_cases h : k = k'
  · simp [h]
  · simp [h, beq_eq_false_iff_ne.mpr h]

/-! ## One list -/

/-- Set the value of the first entry with key `k`, or append an entry. -/
def upsert (k : κ) (v : ν) : List (κ × ν) → List (κ × ν)
  | [] => [(k, v)]
  | e :: l => if e.1 = k then (e.1, v) :: l else e :: upsert k v l

/-- Apply the writes in order. -/
def upsertAll (writes : List (κ × ν)) (l : List (κ × ν)) : List (κ × ν) :=
  writes.foldl (fun l w => upsert w.1 w.2 l) l

/-- The value of the last write to `k`. -/
def lastWrite (writes : List (κ × ν)) (k : κ) : Option ν := writes.reverse.lookup k

@[simp] theorem lastWrite_nil (k : κ) : lastWrite ([] : List (κ × ν)) k = none := rfl

theorem lastWrite_cons (w : κ × ν) (writes : List (κ × ν)) (k : κ) :
    lastWrite (w :: writes) k = (lastWrite writes k).or (if k = w.1 then some w.2 else none) := by
  unfold lastWrite
  rw [List.reverse_cons, List.lookup_append, lookup_cons_ite, List.lookup_nil]

/-- A non-empty run of writes has a last write. -/
theorem exists_lastWrite {writes : List (κ × ν)} (h : writes ≠ []) :
    ∃ k v, lastWrite writes k = some v := by
  obtain ⟨init, ⟨k, v⟩, rfl⟩ := (List.eq_nil_or_concat writes).resolve_left h
  refine ⟨k, v, ?_⟩
  rw [lastWrite, List.concat_eq_append, List.reverse_append, List.reverse_singleton,
    List.singleton_append, List.lookup_cons_self]

theorem mem_of_lastWrite {writes : List (κ × ν)} {k : κ} {v : ν}
    (h : lastWrite writes k = some v) : (k, v) ∈ writes := by
  obtain ⟨l₁, l₂, hl, -⟩ := List.lookup_eq_some_iff.mp h
  rw [← List.mem_reverse, hl]
  simp

/-- Writes to other keys are not seen under `k`. -/
theorem lastWrite_filter_ne (k' : κ) (writes : List (κ × ν)) (k : κ) :
    lastWrite (writes.filter fun w => w.1 ≠ k') k =
      if k = k' then none else lastWrite writes k := by
  induction writes with
  | nil => simp
  | cons w writes ih =>
    rw [List.filter_cons]
    by_cases hw : w.1 = k'
    · rw [if_neg (by simpa using hw), ih, lastWrite_cons]
      by_cases hk : k = k'
      · rw [if_pos hk, if_pos hk]
      · rw [if_neg hk, if_neg hk, if_neg (by rw [hw]; exact hk), Option.or_none]
    · rw [if_pos (by simpa using hw), lastWrite_cons, ih, lastWrite_cons]
      by_cases hk : k = k'
      · rw [if_pos hk, if_pos hk, if_neg (by rw [hk]; exact Ne.symm hw)]
        rfl
      · rw [if_neg hk, if_neg hk]

theorem lookup_upsert (k : κ) (v : ν) (l : List (κ × ν)) (k' : κ) :
    (upsert k v l).lookup k' = if k' = k then some v else l.lookup k' := by
  induction l with
  | nil => rw [upsert, lookup_cons_ite]
  | cons e l ih =>
    obtain ⟨ke, ve⟩ := e
    rw [upsert]
    split_ifs with he hk hk
    · simp only at he
      rw [lookup_cons_ite, if_pos (hk.trans he.symm)]
    · simp only at he
      rw [lookup_cons_ite, lookup_cons_ite, he, if_neg hk, if_neg hk]
    · simp only at he
      rw [lookup_cons_ite, if_neg (by rw [hk]; exact Ne.symm he), ih, if_pos hk]
    · rw [lookup_cons_ite, lookup_cons_ite, ih, if_neg hk]

/-- The last write to a key wins; without one the key keeps its value. -/
theorem lookup_upsertAll (writes l : List (κ × ν)) (k : κ) :
    (upsertAll writes l).lookup k = (lastWrite writes k).or (l.lookup k) := by
  unfold upsertAll
  induction writes generalizing l with
  | nil => rfl
  | cons w writes ih =>
    rw [List.foldl_cons, ih, lookup_upsert, lastWrite_cons, Option.or_assoc]
    congr 1
    split_ifs <;> rfl

/-- The writes to the head's key update the head, the others the tail. -/
theorem upsertAll_cons (writes : List (κ × ν)) (k : κ) (v : ν) (l : List (κ × ν)) :
    upsertAll writes ((k, v) :: l) =
      (k, (lastWrite writes k).getD v) :: upsertAll (writes.filter fun w => w.1 ≠ k) l := by
  unfold upsertAll
  induction writes generalizing v l with
  | nil => rfl
  | cons w writes ih =>
    rw [List.foldl_cons, upsert, lastWrite_cons, List.filter_cons]
    by_cases hw : w.1 = k
    · rw [if_pos hw.symm, ih, if_pos hw.symm, if_neg (by simpa using hw)]
      cases lastWrite writes k <;> rfl
    · rw [if_neg (Ne.symm hw), ih, if_neg (Ne.symm hw), if_pos (by simpa using hw), Option.or_none,
        List.foldl_cons]

/-- A run of writes gives the list back exactly when the last write to each key
    writes the value the key already has. -/
theorem upsertAll_eq_self_iff (writes l : List (κ × ν)) :
    upsertAll writes l = l ↔ ∀ k v, lastWrite writes k = some v → l.lookup k = some v := by
  constructor
  · intro h k v hlast
    rw [← h, lookup_upsertAll, hlast, Option.some_or]
  · intro h
    induction l generalizing writes with
    | nil =>
      by_cases hnil : writes = []
      · rw [hnil]
        rfl
      · obtain ⟨k, v, hlast⟩ := exists_lastWrite hnil
        exact absurd (h k v hlast) (by simp)
    | cons e l ih =>
      obtain ⟨k, v⟩ := e
      have hhead : (lastWrite writes k).getD v = v := by
        cases hlast : lastWrite writes k with
        | none => rfl
        | some v' =>
          have := h k v' hlast
          rw [lookup_cons_ite, if_pos rfl] at this
          exact (Option.some.inj this).symm
      have htail : upsertAll (writes.filter fun w => w.1 ≠ k) l = l := by
        apply ih
        intro k' v' hlast
        rw [lastWrite_filter_ne] at hlast
        split_ifs at hlast with hk
        have := h k' v' hlast
        rwa [lookup_cons_ite, if_neg hk] at this
      rw [upsertAll_cons, hhead, htail]

/-! ## A list of records with lists -/

/-- Records with a key that hold a keyed list: how to read and replace the list. -/
structure Nested (α κ κ' ν : Type*) where
  key : α → κ
  entries : α → List (κ' × ν)
  setEntries : α → List (κ' × ν) → α
  key_setEntries : ∀ a l, key (setEntries a l) = key a
  entries_setEntries : ∀ a l, entries (setEntries a l) = l
  setEntries_entries : ∀ a, setEntries a (entries a) = a
  setEntries_setEntries : ∀ a l l', setEntries (setEntries a l) l' = setEntries a l'

namespace Nested

variable (N : Nested α κ κ' ν)

/-- Write `v` under `(k, k')`: in the first record with key `k`, if there is one. -/
def put (k : κ) (k' : κ') (v : ν) : List α → List α
  | [] => []
  | a :: l =>
    if N.key a = k then N.setEntries a (upsert k' v (N.entries a)) :: l else a :: put k k' v l

/-- Apply the writes in order. -/
def putAll (writes : List ((κ × κ') × ν)) (l : List α) : List α :=
  writes.foldl (fun l w => N.put w.1.1 w.1.2 w.2 l) l

/-- The value under `(k, k')`: in the first record with key `k`. -/
def get (l : List α) (k : κ) (k' : κ') : Option ν :=
  (l.find? fun a => N.key a = k).bind fun a => (N.entries a).lookup k'

/-- Some record has key `k`. -/
def HasKey (l : List α) (k : κ) : Prop := ∃ a ∈ l, N.key a = k

/-- The part of a run of writes that goes to records with key `k`. -/
def writesTo (k : κ) (writes : List ((κ × κ') × ν)) : List (κ' × ν) :=
  (writes.filter fun w => w.1.1 = k).map fun w => (w.1.2, w.2)

theorem lastWrite_writesTo (k : κ) (k' : κ') (writes : List ((κ × κ') × ν)) :
    lastWrite (writesTo k writes) k' = lastWrite writes (k, k') := by
  induction writes with
  | nil => rfl
  | cons w writes ih =>
    obtain ⟨⟨wk, wk'⟩, v⟩ := w
    unfold writesTo at ih ⊢
    rw [lastWrite_cons, List.filter_cons, ← ih]
    by_cases hk : wk = k
    · rw [if_pos (by simpa using hk), List.map_cons, lastWrite_cons]
      simp [hk]
    · rw [if_neg (by simpa using hk), if_neg (by simp [Ne.symm hk]), Option.or_none]

/-- The writes to the head's key go to the head, the others to the tail. -/
theorem putAll_cons (writes : List ((κ × κ') × ν)) (a : α) (l : List α) :
    N.putAll writes (a :: l) =
      N.setEntries a (upsertAll (writesTo (N.key a) writes) (N.entries a)) ::
        N.putAll (writes.filter fun w => w.1.1 ≠ N.key a) l := by
  unfold putAll
  induction writes generalizing a l with
  | nil => simp [writesTo, upsertAll, N.setEntries_entries]
  | cons w writes ih =>
    rw [List.foldl_cons, put, List.filter_cons]
    by_cases hw : N.key a = w.1.1
    · rw [if_pos hw, ih, N.key_setEntries, N.entries_setEntries, N.setEntries_setEntries,
        if_neg (by simpa using hw.symm)]
      congr 2
      simp [writesTo, upsertAll, hw]
    · rw [if_neg hw, ih, if_pos (by simpa using Ne.symm hw), List.foldl_cons]
      congr 2
      simp [writesTo, Ne.symm hw]

theorem get_cons (a : α) (l : List α) (k : κ) (k' : κ') :
    N.get (a :: l) k k' = if N.key a = k then (N.entries a).lookup k' else N.get l k k' := by
  unfold get
  rw [List.find?_cons]
  by_cases h : N.key a = k <;> simp [h]

/-- A run of writes gives the records back exactly when the last write under each
    configured key writes the value that is there. -/
theorem putAll_eq_self_iff (writes : List ((κ × κ') × ν)) (l : List α) :
    N.putAll writes l = l ↔
      ∀ k k' v, lastWrite writes (k, k') = some v → N.HasKey l k → N.get l k k' = some v := by
  induction l generalizing writes with
  | nil =>
    have hnil : N.putAll writes [] = [] := by
      unfold putAll
      induction writes with
      | nil => rfl
      | cons w writes ih => rw [List.foldl_cons, put, ih]
    exact iff_of_true hnil fun k k' v _ ⟨a, ha, _⟩ => absurd ha List.not_mem_nil
  | cons a l ih =>
    have hhead : N.setEntries a (upsertAll (writesTo (N.key a) writes) (N.entries a)) = a ↔
        ∀ k' v, lastWrite writes (N.key a, k') = some v → (N.entries a).lookup k' = some v := by
      have hself := upsertAll_eq_self_iff (writesTo (N.key a) writes) (N.entries a)
      simp only [lastWrite_writesTo] at hself
      rw [← hself]
      constructor
      · intro h
        have := congrArg N.entries h
        rwa [N.entries_setEntries] at this
      · intro h
        rw [h, N.setEntries_entries]
    have hlast : ∀ k k', k ≠ N.key a →
        lastWrite (writes.filter fun w => w.1.1 ≠ N.key a) (k, k') = lastWrite writes (k, k') := by
      intro k k' hk
      rw [← lastWrite_writesTo, ← lastWrite_writesTo]
      congr 1
      unfold writesTo
      rw [List.filter_filter]
      congr 2
      funext w
      by_cases hw : w.1.1 = k <;> simp [hw, hk]
    have hlast' : ∀ k',
        lastWrite (writes.filter fun w => w.1.1 ≠ N.key a) (N.key a, k') = none := by
      intro k'
      rw [← lastWrite_writesTo]
      have : writesTo (N.key a) (writes.filter fun w => w.1.1 ≠ N.key a) = [] := by
        simp [writesTo]
      rw [this, lastWrite_nil]
    rw [putAll_cons, List.cons_eq_cons, hhead, ih]
    constructor
    · rintro ⟨h1, h2⟩ k k' v hw ⟨b, hb, hbk⟩
      rw [get_cons]
      by_cases hk : N.key a = k
      · subst hk
        rw [if_pos rfl]
        exact h1 k' v hw
      · rw [if_neg hk]
        have hmem : b ∈ l := (List.mem_cons.mp hb).resolve_left (by rintro rfl; exact hk hbk)
        exact h2 k k' v (by rw [hlast k k' (Ne.symm hk)]; exact hw) ⟨b, hmem, hbk⟩
    · intro h
      constructor
      · intro k' v hw
        have := h (N.key a) k' v hw ⟨a, by simp, rfl⟩
        rwa [get_cons, if_pos rfl] at this
      · intro k k' v hw ⟨b, hb, hbk⟩
        by_cases hk : N.key a = k
        · subst hk
          rw [hlast'] at hw
          exact absurd hw (by simp)
        · rw [hlast k k' (Ne.symm hk)] at hw
          have := h k k' v hw ⟨b, List.mem_cons_of_mem a hb, hbk⟩
          rwa [get_cons, if_neg hk] at this

end Nested

end KeyedList
