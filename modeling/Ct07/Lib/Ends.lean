/-
# Computations that end

Code that checks what it assumes stops where a check fails.  `Ends x Q` says that the computation
`x` does not stop, and that `Q` holds of what it computes.

* `Ends` : total correctness;
* `ends_bind` : the parts of a computation end, one after the other.
-/
import Mathlib.Tactic.Common

variable {ε α β : Type}

/-- The computation gives a result, and `Q` holds of it. -/
def Ends (x : Except ε α) (Q : α → Prop) : Prop := ∃ a, x = .ok a ∧ Q a

theorem ends_ok {a : α} {Q : α → Prop} (h : Q a) : Ends (.ok a : Except ε α) Q := ⟨a, rfl, h⟩

theorem Ends.mono {x : Except ε α} {P Q : α → Prop} (h : Ends x P) (himp : ∀ a, P a → Q a) :
    Ends x Q := by
  obtain ⟨a, hx, ha⟩ := h
  exact ⟨a, hx, himp a ha⟩

theorem Ends.of_eq {x : Except ε α} {a : α} {Q : α → Prop} (h : Ends x Q) (hx : x = .ok a) :
    Q a := by
  obtain ⟨b, hb, hq⟩ := h
  cases hb.symm.trans hx
  exact hq

/-- What comes next starts from a result of which `P` holds. -/
theorem ends_bind {x : Except ε α} {f : α → Except ε β} {P : α → Prop} {Q : β → Prop}
    (hx : Ends x P) (hf : ∀ a, P a → Ends (f a) Q) : Ends (x >>= f) Q := by
  obtain ⟨a, rfl, ha⟩ := hx
  exact hf a ha

theorem ends_map {x : Except ε α} {f : α → β} {P : α → Prop} {Q : β → Prop}
    (hx : Ends x P) (hf : ∀ a, P a → Q (f a)) : Ends (x.map f) Q := by
  obtain ⟨a, rfl, ha⟩ := hx
  exact ⟨f a, rfl, hf a ha⟩
