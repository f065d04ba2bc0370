import Mathlib

/-!
# Range-based `for` loops as folds

A C++ loop `for (auto x : xs)` over local accumulators is a left fold. The lemmas
give the closed form of the accumulators that search loops use:

* `foldl_flag`: a `bool` set to `true` by some element is `any`;
* `foldl_pushBack`: one `push_back` a round is `map`;
* `foldl_pushBackIf`: a guarded `push_back` is `filter`, then `map`;
* `foldl_partition`: `push_back` to one of two vectors is the two `filter`s.
-/

namespace Loops

variable {α β : Type*}

/-- `bool b; for (x : l) if (p(x)) b = true;` -/
theorem foldl_flag (p : α → Bool) (l : List α) (b : Bool) :
    l.foldl (fun b x => if p x then true else b) b = (b || l.any p) := by
  induction l generalizing b with
  | nil => simp
  | cons x l ih =>
    rw [List.foldl_cons, ih, List.any_cons]
    cases p x <;> simp

/-- `for (x : l) v.push_back(f(x));` -/
theorem foldl_pushBack (f : α → β) (l : List α) (v : List β) :
    l.foldl (fun v x => v ++ [f x]) v = v ++ l.map f := by
  induction l generalizing v with
  | nil => simp
  | cons x l ih => rw [List.foldl_cons, ih]; simp

/-- `for (x : l) if (p(x)) v.push_back(f(x));` -/
theorem foldl_pushBackIf (p : α → Bool) (f : α → β) (l : List α) (v : List β) :
    l.foldl (fun v x => if p x then v ++ [f x] else v) v = v ++ (l.filter p).map f := by
  induction l generalizing v with
  | nil => simp
  | cons x l ih =>
    rw [List.foldl_cons, ih, List.filter_cons]
    cases p x <;> simp

/-- `for (x : l) if (!p(x)) rejected.push_back(x); else matched.push_back(x);` -/
theorem foldl_partition (p : α → Bool) (l : List α) (rejected matched : List α) :
    l.foldl (fun st x => if !p x then (st.1 ++ [x], st.2) else (st.1, st.2 ++ [x]))
        (rejected, matched) =
      (rejected ++ l.filter (fun x => !p x), matched ++ l.filter p) := by
  induction l generalizing rejected matched with
  | nil => simp
  | cons x l ih =>
    rw [List.foldl_cons]
    cases hx : p x
    · rw [Bool.not_false, if_pos rfl, ih]
      simp [hx]
    · rw [Bool.not_true, if_neg Bool.false_ne_true, ih]
      simp [hx]

end Loops
