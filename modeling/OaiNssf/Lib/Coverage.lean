import Mathlib

/-!
# Needs, offers and first-match search

The mathematics of a selector that is given a list of needs, holds groups of
members with offers, and takes the first group in which some member serves the
needs. `R a b` says that the offer `b` meets the need `a`.

* `Covers R needs offers`: every need is met by some offer.
* `Serves R needs entries`: one single entry (a list of offers) covers the needs.
* `exists_mem_mono`: a search is monotone under insertions.
* `IsFirst p l x`: `x` is the first element of `l` with property `p`. A loop
  with an early return ends at such an element (`isFirst_cons`), and there is
  one exactly when some element has the property (`exists_isFirst_iff`).
* `Alike S l l'`: each element of one list is related to one of the other. It is all
  that coverage depends on (`Covers.transfer`, `Serves.transfer`); a first match needs
  the lists related position by position (`IsFirst.forall₂`).
-/

namespace Coverage

variable {α α' β β' : Type*}

/-! ## Coverage -/

section Covers

variable (R : α → β → Prop)

/-- Every need is met by some offer. -/
def Covers (needs : List α) (offers : List β) : Prop := ∀ a ∈ needs, ∃ b ∈ offers, R a b

/-- One single entry covers the needs. -/
def Serves (needs : List α) (entries : List (List β)) : Prop := ∃ e ∈ entries, Covers R needs e

variable {R}

/-- Fewer needs are easier to cover. -/
theorem Covers.anti {needs needs' : List α} {offers : List β} (h : Covers R needs offers)
    (hsub : needs' ⊆ needs) : Covers R needs' offers :=
  fun a ha => h a (hsub ha)

theorem Serves.anti {needs needs' : List α} {entries : List (List β)}
    (h : Serves R needs entries) (hsub : needs' ⊆ needs) : Serves R needs' entries := by
  obtain ⟨e, he, hc⟩ := h
  exact ⟨e, he, hc.anti hsub⟩

/-- More offers cover as much. -/
theorem Covers.mono {needs : List α} {offers offers' : List β} (h : Covers R needs offers)
    (hsub : offers ⊆ offers') : Covers R needs offers' := by
  intro a ha
  obtain ⟨b, hb, hab⟩ := h a ha
  exact ⟨b, hsub hb, hab⟩

end Covers

/-- A search that succeeds still does when elements are inserted and each element is
    replaced by one that keeps the property. -/
theorem exists_mem_mono {S : α → β → Prop} {p : α → Prop} {q : β → Prop} {l : List α}
    {l' : List β} (h : List.SublistForall₂ S l l') (hS : ∀ a b, S a b → p a → q b)
    (hp : ∃ a ∈ l, p a) : ∃ b ∈ l', q b := by
  induction h with
  | nil =>
    obtain ⟨a, ha, -⟩ := hp
    exact absurd ha List.not_mem_nil
  | @cons a b l l' hab _ ih =>
    obtain ⟨x, hx, hpx⟩ := hp
    rcases List.mem_cons.mp hx with rfl | hx
    · exact ⟨b, List.mem_cons_self, hS x b hab hpx⟩
    · obtain ⟨y, hy, hqy⟩ := ih ⟨x, hx, hpx⟩
      exact ⟨y, List.mem_cons_of_mem b hy, hqy⟩
  | @cons_right b l l' _ ih =>
    obtain ⟨y, hy, hqy⟩ := ih hp
    exact ⟨y, List.mem_cons_of_mem b hy, hqy⟩

/-! ## First match -/

/-- `x` is the first element of `l` with property `p`. -/
def IsFirst (p : α → Prop) (l : List α) (x : α) : Prop :=
  ∃ pre post, l = pre ++ x :: post ∧ p x ∧ ∀ y ∈ pre, ¬p y

namespace IsFirst

variable {p : α → Prop} {l : List α} {x : α}

theorem append (h : IsFirst p l x) (l' : List α) : IsFirst p (l ++ l') x := by
  obtain ⟨pre, post, rfl, hx, hpre⟩ := h
  exact ⟨pre, post ++ l', by simp, hx, hpre⟩

theorem mem (h : IsFirst p l x) : x ∈ l := by
  obtain ⟨pre, post, rfl, -, -⟩ := h
  simp

theorem holds (h : IsFirst p l x) : p x := by
  obtain ⟨-, -, -, hx, -⟩ := h
  exact hx

/-- In lists put one after the other, what is first in the first list that has something. -/
theorem flatMap {f : β → List α} {ls : List β} {b : β}
    (hb : IsFirst (fun b => ∃ x ∈ f b, p x) ls b) (hx : IsFirst p (f b) x) :
    IsFirst p (ls.flatMap f) x := by
  obtain ⟨before, after, rfl, -, hbefore⟩ := hb
  obtain ⟨pre, post, hfb, hpx, hpre⟩ := hx
  refine ⟨before.flatMap f ++ pre, post ++ after.flatMap f, by simp [hfb], hpx, ?_⟩
  intro y hy
  rcases List.mem_append.mp hy with hy | hy
  · obtain ⟨b', hb', hy'⟩ := List.mem_flatMap.mp hy
    exact fun hpy => hbefore b' hb' ⟨y, hy', hpy⟩
  · exact hpre y hy

end IsFirst

/-- Either the loop stops at the head, or the head is passed over. -/
theorem isFirst_cons {p : α → Prop} {l : List α} {x a : α} :
    IsFirst p (a :: l) x ↔ (p a ∧ x = a) ∨ (¬p a ∧ IsFirst p l x) := by
  constructor
  · rintro ⟨pre, post, hl, hx, hpre⟩
    cases pre with
    | nil =>
      obtain ⟨rfl, -⟩ := List.cons.inj hl
      exact Or.inl ⟨hx, rfl⟩
    | cons b pre =>
      obtain ⟨rfl, htail⟩ := List.cons.inj hl
      exact Or.inr ⟨hpre a (by simp), pre, post, htail, hx, fun y hy => hpre y (by simp [hy])⟩
  · rintro (⟨ha, rfl⟩ | ⟨ha, pre, post, rfl, hx, hpre⟩)
    · exact ⟨[], l, rfl, ha, by simp⟩
    · refine ⟨a :: pre, post, rfl, hx, ?_⟩
      intro y hy
      rcases List.mem_cons.mp hy with rfl | hy
      · exact ha
      · exact hpre y hy

/-- The first element is one. -/
theorem IsFirst.unique {p : α → Prop} {l : List α} {x y : α} (hx : IsFirst p l x)
    (hy : IsFirst p l y) : x = y := by
  induction l with
  | nil => exact absurd hx.mem List.not_mem_nil
  | cons a rest ih =>
    rcases isFirst_cons.mp hx with ⟨ha, rfl⟩ | ⟨ha, hx'⟩
    · rcases isFirst_cons.mp hy with ⟨-, rfl⟩ | ⟨hna, -⟩
      · rfl
      · exact absurd ha hna
    · rcases isFirst_cons.mp hy with ⟨hpa, -⟩ | ⟨-, hy'⟩
      · exact absurd hpa ha
      · exact ih hx' hy'

/-- A search succeeds exactly when there is something to find. -/
theorem exists_isFirst_iff {p : α → Prop} {l : List α} :
    (∃ x, IsFirst p l x) ↔ ∃ x ∈ l, p x := by
  constructor
  · rintro ⟨x, h⟩
    exact ⟨x, h.mem, h.holds⟩
  · intro h
    induction l with
    | nil => simp at h
    | cons a l ih =>
      by_cases ha : p a
      · exact ⟨a, isFirst_cons.mpr (Or.inl ⟨ha, rfl⟩)⟩
      · obtain ⟨y, hy, hp⟩ := h
        rcases List.mem_cons.mp hy with rfl | hy
        · exact absurd hp ha
        · obtain ⟨x, hx⟩ := ih ⟨y, hy, hp⟩
          exact ⟨x, isFirst_cons.mpr (Or.inr ⟨ha, hx⟩)⟩

/-- A search for a weaker property ends at the same place or before. -/
theorem exists_isFirst_of_weaker {p q : α → Prop} {l : List α} {x : α}
    (hx : IsFirst p l x) (hpq : ∀ y ∈ l, p y → q y) :
    ∃ pre post y, l = pre ++ x :: post ∧ y ∈ pre ++ [x] ∧ IsFirst q l y := by
  obtain ⟨pre, post, rfl, hpx, hpre⟩ := hx
  have hqx : q x := hpq x (by simp) hpx
  obtain ⟨y, hy⟩ :=
    exists_isFirst_iff.mpr ⟨x, List.mem_append_right pre (List.mem_singleton_self x), hqx⟩
  refine ⟨pre, post, y, rfl, hy.mem, ?_⟩
  obtain ⟨pre', post', heq, hqy, hpre'⟩ := hy
  refine ⟨pre', post' ++ post, ?_, hqy, hpre'⟩
  calc pre ++ x :: post = (pre ++ [x]) ++ post := by simp
    _ = (pre' ++ y :: post') ++ post := by rw [heq]
    _ = pre' ++ y :: (post' ++ post) := by simp

/-! ## Two lists compared -/

/-- Each element of one list is related to some element of the other. -/
structure Alike (S : α → β → Prop) (l : List α) (l' : List β) : Prop where
  left : ∀ a ∈ l, ∃ b ∈ l', S a b
  right : ∀ b ∈ l', ∃ a ∈ l, S a b

/-- The lists have the same elements, in any order and any number. -/
def SameElements (l l' : List α) : Prop := ∀ a, a ∈ l ↔ a ∈ l'

theorem SameElements.alike {l l' : List α} (h : SameElements l l') : Alike Eq l l' where
  left a ha := ⟨a, (h a).mp ha, rfl⟩
  right a ha := ⟨a, (h a).mpr ha, rfl⟩

namespace Alike

variable {S : α → β → Prop} {l : List α} {l' : List β}

theorem of_forall₂ (h : List.Forall₂ S l l') : Alike S l l' := by
  induction h with
  | nil => exact ⟨by simp, by simp⟩
  | @cons a b l l' hab _ ih =>
    constructor
    · intro x hx
      rcases List.mem_cons.mp hx with rfl | hx
      · exact ⟨b, List.mem_cons_self, hab⟩
      · obtain ⟨y, hy, hxy⟩ := ih.left x hx
        exact ⟨y, List.mem_cons_of_mem b hy, hxy⟩
    · intro y hy
      rcases List.mem_cons.mp hy with rfl | hy
      · exact ⟨a, List.mem_cons_self, hab⟩
      · obtain ⟨x, hx, hxy⟩ := ih.right y hy
        exact ⟨x, List.mem_cons_of_mem a hx, hxy⟩

theorem swap (h : Alike S l l') : Alike (fun b a => S a b) l' l := ⟨h.right, h.left⟩

theorem imp {T : α → β → Prop} (h : Alike S l l') (hST : ∀ a b, S a b → T a b) :
    Alike T l l' := by
  constructor
  · intro a ha
    obtain ⟨b, hb, hab⟩ := h.left a ha
    exact ⟨b, hb, hST a b hab⟩
  · intro b hb
    obtain ⟨a, ha, hab⟩ := h.right b hb
    exact ⟨a, ha, hST a b hab⟩

theorem map {f : α → α'} {g : β → β'} {T : α' → β' → Prop}
    (h : Alike (fun a b => T (f a) (g b)) l l') : Alike T (l.map f) (l'.map g) := by
  constructor
  · intro x hx
    obtain ⟨a, ha, rfl⟩ := List.mem_map.mp hx
    obtain ⟨b, hb, hab⟩ := h.left a ha
    exact ⟨g b, List.mem_map_of_mem hb, hab⟩
  · intro y hy
    obtain ⟨b, hb, rfl⟩ := List.mem_map.mp hy
    obtain ⟨a, ha, hab⟩ := h.right b hb
    exact ⟨f a, List.mem_map_of_mem ha, hab⟩

/-- A search that succeeds in one list succeeds in the other. -/
theorem exists_mem {p : α → Prop} {q : β → Prop} (h : Alike S l l')
    (hS : ∀ a b, S a b → p a → q b) (hp : ∃ a ∈ l, p a) : ∃ b ∈ l', q b := by
  obtain ⟨a, ha, hpa⟩ := hp
  obtain ⟨b, hb, hab⟩ := h.left a ha
  exact ⟨b, hb, hS a b hab hpa⟩

theorem exists_mem_iff {p : α → Prop} {q : β → Prop} (h : Alike S l l')
    (hS : ∀ a b, S a b → (p a ↔ q b)) : (∃ a ∈ l, p a) ↔ ∃ b ∈ l', q b := by
  constructor
  · intro hp
    exact h.exists_mem (fun a b hab => (hS a b hab).mp) hp
  · intro hq
    exact h.swap.exists_mem (fun b a hab => (hS a b hab).mpr) hq

end Alike

section Transfer

variable {R : α → β → Prop} {R' : α' → β' → Prop} {S : α → α' → Prop} {T : β → β' → Prop}

/-- Coverage is carried over to related needs and related offers. -/
theorem Covers.transfer {needs : List α} {needs' : List α'} {offers : List β} {offers' : List β'}
    (h : Covers R needs offers) (hneeds : Alike S needs needs') (hoffers : Alike T offers offers')
    (hR : ∀ a a' b b', S a a' → T b b' → R a b → R' a' b') : Covers R' needs' offers' := by
  intro a' ha'
  obtain ⟨a, ha, haa⟩ := hneeds.right a' ha'
  obtain ⟨b, hb, hab⟩ := h a ha
  obtain ⟨b', hb', hbb⟩ := hoffers.left b hb
  exact ⟨b', hb', hR a a' b b' haa hbb hab⟩

theorem Serves.transfer {needs : List α} {needs' : List α'} {entries : List (List β)}
    {entries' : List (List β')} (h : Serves R needs entries) (hneeds : Alike S needs needs')
    (hentries : Alike (Alike T) entries entries')
    (hR : ∀ a a' b b', S a a' → T b b' → R a b → R' a' b') : Serves R' needs' entries' := by
  refine hentries.exists_mem ?_ h
  intro offers offers' hoffers hcovers
  exact hcovers.transfer hneeds hoffers hR

end Transfer

/-- Searches that agree position by position find related elements. -/
theorem IsFirst.forall₂ {S : α → β → Prop} {p : α → Prop} {q : β → Prop} {l : List α}
    {l' : List β} {x : α} (hx : IsFirst p l x) (h : List.Forall₂ S l l')
    (hS : ∀ a b, S a b → (p a ↔ q b)) : ∃ y, IsFirst q l' y ∧ S x y := by
  induction h with
  | nil => exact absurd hx.mem List.not_mem_nil
  | @cons a b l l' hab _ ih =>
    rcases isFirst_cons.mp hx with ⟨ha, rfl⟩ | ⟨ha, hrest⟩
    · exact ⟨b, isFirst_cons.mpr (Or.inl ⟨(hS x b hab).mp ha, rfl⟩), hab⟩
    · obtain ⟨y, hy, hxy⟩ := ih hrest
      have hb : ¬q b := fun hq => ha ((hS a b hab).mpr hq)
      exact ⟨y, isFirst_cons.mpr (Or.inr ⟨hb, hy⟩), hxy⟩

end Coverage
