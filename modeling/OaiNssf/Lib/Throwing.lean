import Mathlib

/-!
# Loops that an exception may leave

A loop pushes to a vector what its body makes of each entry of a document. An
exception thrown by the body leaves the loop, and what was pushed before it stays.

* `pushEach_snd`: the vector holds what the entries before the first failing one
  translate to (`goodPrefix`).
* `pushEach_fst_eq_ok_iff`: the loop ends without an exception exactly when every
  entry translates, and then nothing is missing (`translates_goodPrefix`).
* `pushEach_longestPrefix`: the vector has grown by the translation of the longest prefix
  that translates.
* `goodPrefix_map`: entries that were written by a function the body inverts are all
  read.
* `succeeds_bind_iff`: a block succeeds when each of its steps does.
-/

namespace Throwing

/-! ## Blocks -/

section Succeeds

universe u v

variable {ε : Type v} {α β : Type u}

/-- The computation ends without an exception. -/
def Succeeds (x : Except ε α) : Prop := ∃ a, x = .ok a

@[simp] theorem succeeds_ok (a : α) : Succeeds (.ok a : Except ε α) := ⟨a, rfl⟩

@[simp] theorem succeeds_pure (a : α) : Succeeds (pure a : Except ε α) := ⟨a, rfl⟩

@[simp] theorem not_succeeds_error (e : ε) : ¬Succeeds (.error e : Except ε α) := by
  rintro ⟨a, h⟩
  cases h

@[simp] theorem ok_bind (a : α) (f : α → Except ε β) : (.ok a >>= f : Except ε β) = f a := rfl

@[simp] theorem error_bind (e : ε) (f : α → Except ε β) :
    (.error e >>= f : Except ε β) = .error e := rfl

theorem succeeds_bind_iff {x : Except ε α} {f : α → Except ε β} :
    Succeeds (x >>= f) ↔ ∃ a, x = .ok a ∧ Succeeds (f a) := by
  cases x with
  | error e =>
    refine iff_of_false (not_succeeds_error e) ?_
    rintro ⟨a, h, -⟩
    cases h
  | ok a =>
    constructor
    · intro h
      exact ⟨a, rfl, h⟩
    · rintro ⟨a', h, hf⟩
      cases h
      exact hf

/-- A step whose value decides nothing. -/
theorem succeeds_bind_and_iff {x : Except ε α} {f : α → Except ε β} {p : Prop}
    (h : ∀ a, Succeeds (f a) ↔ p) : Succeeds (x >>= f) ↔ Succeeds x ∧ p := by
  simp only [succeeds_bind_iff, h, exists_and_right]
  rfl

/-- The last step of a block that returns. -/
theorem succeeds_bind_pure_iff {x : Except ε α} {f : α → β} :
    Succeeds (x >>= fun a => pure (f a)) ↔ Succeeds x := by
  rw [succeeds_bind_and_iff fun a => iff_true_intro (succeeds_pure (f a)), and_true]

end Succeeds

/-! ## Loops -/

variable {ε α β γ : Type*}

/-- `for (x : l) v.push_back(body(x));` with a body that may throw: how the loop ends,
    and the vector it leaves. -/
def pushEach (body : α → Except ε β) : List α → List β → Except ε Unit × List β
  | [], v => (.ok (), v)
  | a :: rest, v =>
    match body a with
    | .ok b => pushEach body rest (v ++ [b])
    | .error e => (.error e, v)

/-- What the entries before the first failing one translate to. -/
def goodPrefix (body : α → Except ε β) : List α → List β
  | [] => []
  | a :: rest =>
    match body a with
    | .ok b => b :: goodPrefix body rest
    | .error _ => []

/-- Entry by entry, the list `l` translates to the list `m`. -/
def Translates (body : α → Except ε β) (l : List α) (m : List β) : Prop :=
  List.Forall₂ (fun a b => body a = .ok b) l m

variable {body : α → Except ε β}

theorem pushEach_snd (l : List α) (v : List β) :
    (pushEach body l v).2 = v ++ goodPrefix body l := by
  induction l generalizing v with
  | nil => simp [pushEach, goodPrefix]
  | cons a rest ih =>
    unfold pushEach goodPrefix
    cases body a with
    | error e => simp
    | ok b =>
      show (pushEach body rest (v ++ [b])).2 = v ++ b :: goodPrefix body rest
      rw [ih, List.append_assoc, List.singleton_append]

theorem pushEach_fst_eq_ok_iff (l : List α) (v : List β) :
    (pushEach body l v).1 = .ok () ↔ ∀ a ∈ l, Succeeds (body a) := by
  induction l generalizing v with
  | nil => simp [pushEach]
  | cons a rest ih =>
    unfold pushEach
    rw [List.forall_mem_cons]
    cases body a with
    | error e => exact iff_of_false nofun fun h => not_succeeds_error e h.1
    | ok b =>
      rw [and_iff_right (succeeds_ok b)]
      exact ih (v ++ [b])

/-- When every entry translates, the good prefix is the translation of all. -/
theorem translates_goodPrefix {l : List α} (h : ∀ a ∈ l, Succeeds (body a)) :
    Translates body l (goodPrefix body l) := by
  induction l with
  | nil => exact List.Forall₂.nil
  | cons a rest ih =>
    obtain ⟨b, hb⟩ := h a List.mem_cons_self
    have hrest : Translates body rest (goodPrefix body rest) :=
      ih fun a' ha' => h a' (List.mem_cons_of_mem a ha')
    rw [goodPrefix, hb]
    exact List.Forall₂.cons hb hrest

/-- `good` is the longest prefix of `l` whose entries all translate, and `m` is what they
    translate to. -/
structure LongestPrefix (body : α → Except ε β) (l good : List α) (m : List β) : Prop where
  isPrefix : good <+: l
  translates : Translates body good m
  longest : ∀ pre, pre <+: l → (∀ a ∈ pre, Succeeds (body a)) → pre <+: good

theorem Translates.succeeds {l : List α} {m : List β} (h : Translates body l m) :
    ∀ a ∈ l, Succeeds (body a) := by
  induction h with
  | nil => exact fun a ha => absurd ha List.not_mem_nil
  | @cons a b _ _ hab _ ih =>
    intro a' ha'
    rcases List.mem_cons.mp ha' with rfl | hmem
    · exact ⟨b, hab⟩
    · exact ih a' hmem

/-- The prefix is the whole list when every entry translates. -/
theorem LongestPrefix.eq_iff {l good : List α} {m : List β} (h : LongestPrefix body l good m) :
    good = l ↔ ∀ a ∈ l, Succeeds (body a) := by
  constructor
  · intro heq
    rw [← heq]
    exact h.translates.succeeds
  · intro hall
    have hle : l.length ≤ good.length := (h.longest l (List.prefix_refl l) hall).length_le
    exact h.isPrefix.eq_of_length_le hle

/-- What is pushed before the first failing entry is the translation of the longest
    prefix that translates. -/
theorem exists_longestPrefix (l : List α) :
    ∃ good, LongestPrefix body l good (goodPrefix body l) := by
  induction l with
  | nil => exact ⟨[], List.prefix_refl [], List.Forall₂.nil, fun pre hpre _ => hpre⟩
  | cons a rest ih =>
    unfold goodPrefix
    cases hbody : body a with
    | error e =>
      -- a longer prefix has the failing entry in it
      refine ⟨[], List.nil_prefix, List.Forall₂.nil, ?_⟩
      intro pre hpre hall
      cases pre with
      | nil => exact List.prefix_refl []
      | cons a' pre =>
        obtain ⟨rfl, -⟩ := List.cons_prefix_cons.mp hpre
        have ha : Succeeds (body a') := hall a' List.mem_cons_self
        rw [hbody] at ha
        exact absurd ha (not_succeeds_error e)
    | ok b =>
      obtain ⟨good, hgood⟩ := ih
      refine ⟨a :: good, List.cons_prefix_cons.mpr ⟨rfl, hgood.isPrefix⟩,
        List.Forall₂.cons hbody hgood.translates, ?_⟩
      intro pre hpre hall
      cases pre with
      | nil => exact List.nil_prefix
      | cons a' pre =>
        obtain ⟨rfl, hrest⟩ := List.cons_prefix_cons.mp hpre
        have htail : pre <+: good :=
          hgood.longest pre hrest fun x hx => hall x (List.mem_cons_of_mem a' hx)
        exact List.cons_prefix_cons.mpr ⟨rfl, htail⟩

/-- How the loop ends and what it leaves. -/
theorem pushEach_longestPrefix (l : List α) (v : List β) :
    ∃ good m, LongestPrefix body l good m ∧ (pushEach body l v).2 = v ++ m ∧
      ((pushEach body l v).1 = .ok () ↔ good = l) := by
  obtain ⟨good, hgood⟩ : ∃ good, LongestPrefix body l good (goodPrefix body l) :=
    exists_longestPrefix l
  refine ⟨good, goodPrefix body l, hgood, pushEach_snd l v, ?_⟩
  rw [pushEach_fst_eq_ok_iff, hgood.eq_iff]

/-- A relation between each entry of the list and its translation holds throughout. -/
theorem Translates.forall₂ {S : α → β → Prop} {l : List α} {m : List β}
    (h : Translates body l m) (hS : ∀ a ∈ l, ∀ b, body a = .ok b → S a b) :
    List.Forall₂ S l m := by
  induction h with
  | nil => exact List.Forall₂.nil
  | cons hab hrest ih =>
    have htail := ih fun a' ha' => hS a' (List.mem_cons_of_mem _ ha')
    exact List.Forall₂.cons (hS _ List.mem_cons_self _ hab) htail

/-- What is pushed is the translation of some entry. -/
theorem mem_goodPrefix {l : List α} {b : β} (h : b ∈ goodPrefix body l) :
    ∃ a ∈ l, body a = .ok b := by
  induction l with
  | nil => exact absurd h List.not_mem_nil
  | cons a rest ih =>
    unfold goodPrefix at h
    cases hbody : body a with
    | error e =>
      rw [hbody] at h
      exact absurd h List.not_mem_nil
    | ok b' =>
      rw [hbody] at h
      rcases List.mem_cons.mp h with rfl | hmem
      · exact ⟨a, List.mem_cons_self, hbody⟩
      · obtain ⟨a', ha', hb⟩ := ih hmem
        exact ⟨a', List.mem_cons_of_mem a ha', hb⟩

/-- Entries written by `write` are read back as `read`, if the body does so entry by
    entry. -/
theorem goodPrefix_map {write : γ → α} {read : γ → β} {l : List γ}
    (h : ∀ c ∈ l, body (write c) = .ok (read c)) :
    goodPrefix body (l.map write) = l.map read := by
  induction l with
  | nil => rfl
  | cons c rest ih =>
    have hrest : goodPrefix body (rest.map write) = rest.map read :=
      ih fun c' hc' => h c' (List.mem_cons_of_mem c hc')
    rw [List.map_cons, goodPrefix, h c List.mem_cons_self, hrest, List.map_cons]

/-- A loop over such entries ends without an exception and pushes them all. -/
theorem pushEach_map {write : γ → α} {read : γ → β} {l : List γ}
    (h : ∀ c ∈ l, body (write c) = .ok (read c)) (v : List β) :
    pushEach body (l.map write) v = (.ok (), v ++ l.map read) := by
  have hall : ∀ a ∈ l.map write, Succeeds (body a) := by
    intro a ha
    obtain ⟨c, hc, rfl⟩ := List.mem_map.mp ha
    exact ⟨read c, h c hc⟩
  refine Prod.ext ((pushEach_fst_eq_ok_iff _ v).mpr hall) ?_
  rw [pushEach_snd, goodPrefix_map h]

end Throwing
