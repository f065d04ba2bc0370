import Mathlib.Logic.Basic

/-!
# Gates on optional parameters

A gate guards a request by an optional text parameter: the parameter is decoded, an
absent one and one the decoder gives up on stand for a default value, and the request
passes when a check holds of the value. Since the check holds of the default, a gate
may pass a parameter that was given and authorises nothing.

* `Gate.bypassed_iff`: on a request that passes, the gate is bypassed exactly when the
  parameter it is given does not authorise it.
-/

namespace Decoding

universe u v

variable {ε : Type v} {α β : Type u}

theorem bind_eq_ok_iff {x : Except ε α} {f : α → Except ε β} {b : β} :
    (x >>= f) = .ok b ↔ ∃ a, x = .ok a ∧ f a = .ok b := by
  cases x with
  | error e => exact iff_of_false nofun fun ⟨_, ha, _⟩ => nomatch ha
  | ok a =>
    constructor
    · intro h
      exact ⟨a, rfl, h⟩
    · rintro ⟨a', ha, h⟩
      cases ha
      exact h

/-- The last step of a decoder that returns. -/
theorem pure_eq_ok_iff {a b : α} : (pure a : Except ε α) = .ok b ↔ b = a := by
  constructor
  · intro h
    cases h
    rfl
  · rintro rfl
    rfl

theorem map_eq_ok_iff {x : Except ε α} {f : α → β} {b : β} :
    x.map f = .ok b ↔ ∃ a, x = .ok a ∧ f a = b := by
  cases x with
  | error e => exact iff_of_false nofun fun ⟨_, ha, _⟩ => nomatch ha
  | ok a => simp [Except.map]

/-- A gate: the decoder, which may throw or give up (`none`), the default value and the
    check, which holds of the default. -/
structure Gate (ε : Type v) (α : Type u) where
  decode : String → Except ε (Option α)
  default : α
  check : α → Prop
  check_default : check default

namespace Gate

variable (g : Gate ε α) (authorised : α → Prop)

/-- The value that the gate checks. -/
def value : Option String → Except ε α
  | none => .ok g.default
  | some s => (g.decode s).map fun a => a.getD g.default

/-- A request with this parameter passes. -/
def Opens (param : Option String) : Prop := ∃ a, g.value param = .ok a ∧ g.check a

/-- The parameter, if it is given and not empty, decodes to an authorised value. -/
def Authorises (param : Option String) : Prop :=
  ∀ s, param = some s → s ≠ "" → ∃ a, g.decode s = .ok (some a) ∧ authorised a

/-- A parameter that is given and not empty passes without an authorised value: the
    decoder gives up on it, or the check holds of what it decodes to. -/
def Bypassed (param : Option String) : Prop :=
  ∃ s, param = some s ∧ s ≠ "" ∧
    (g.decode s = .ok none ∨ ∃ a, g.decode s = .ok (some a) ∧ g.check a ∧ ¬authorised a)

variable {g authorised}

theorem opens_none : g.Opens none := ⟨g.default, rfl, g.check_default⟩

theorem opens_some_iff {s : String} :
    g.Opens (some s) ↔
      g.decode s = .ok none ∨ ∃ a, g.decode s = .ok (some a) ∧ g.check a := by
  simp only [Opens, value, map_eq_ok_iff]
  constructor
  · rintro ⟨a, ⟨v, hv, rfl⟩, hcheck⟩
    cases v with
    | none => exact Or.inl hv
    | some a => exact Or.inr ⟨a, hv, hcheck⟩
  · rintro (hnone | ⟨a, ha, hcheck⟩)
    · exact ⟨g.default, ⟨none, hnone, rfl⟩, g.check_default⟩
    · exact ⟨a, ⟨some a, ha, rfl⟩, hcheck⟩

/-- On a request that passes, a bypass is a given parameter without authority. -/
theorem bypassed_iff {param : Option String} (hopen : g.Opens param) :
    g.Bypassed authorised param ↔ ¬g.Authorises authorised param := by
  cases param with
  | none => exact iff_of_false (fun ⟨_, h, _⟩ => nomatch h) (not_not_intro fun _ h => nomatch h)
  | some s =>
    simp only [Bypassed, Authorises, Option.some.injEq, exists_eq_left', forall_eq']
    constructor
    · rintro ⟨hs, hnone | ⟨a, ha, -, hnot⟩⟩ h
      · obtain ⟨b, hb, -⟩ := h hs
        rw [hnone] at hb
        cases hb
      · obtain ⟨b, hb, hauth⟩ := h hs
        rw [ha] at hb
        cases hb
        exact hnot hauth
    · intro h
      rw [Classical.not_imp] at h
      obtain ⟨hs, hnot⟩ := h
      refine ⟨hs, ?_⟩
      rcases opens_some_iff.mp hopen with hnone | ⟨a, ha, hcheck⟩
      · exact Or.inl hnone
      · exact Or.inr ⟨a, ha, hcheck, fun hauth => hnot ⟨a, ha, hauth⟩⟩

end Gate

end Decoding
