/-
# Storage with a lifetime, and views into it

A store says which blocks are live and what they hold: a block is entered with its contents
(a local array when its scope is entered, an allocation), written, and left (the end of the
scope, a release).  A view refers to a block without owning it; it is valid as long as the
block is live and holds what the view was made from.

* `Store` : the blocks that are live, with their contents;
* `View`, `View.Valid` : a reference, and when reading it gives what it was made from;
* `View.not_valid_of_none` : no view outlives its block;
* `Store.leave_enter` : a scope leaves nothing behind.
-/
import Mathlib.Logic.Function.Basic

namespace ScopedStorage

variable {β τ : Type*}

/-- The blocks that are live, with what they hold. -/
abbrev Store (β τ : Type*) := β → Option τ

/-- A reference to a block, or to none when what it stands for is a value of its own. -/
structure View (β τ : Type*) where
  /-- what was to be read when the view was made -/
  text : τ
  block : Option β
  deriving DecidableEq

namespace View

/-- A value that refers to no block. -/
def own (x : τ) : View β τ := ⟨x, none⟩

/-- A view of what the block `b` holds. -/
def of (b : β) (x : τ) : View β τ := ⟨x, some b⟩

/-- What is read through the view now is what was to be read when it was made. -/
def Valid (m : Store β τ) (v : View β τ) : Prop := ∀ b ∈ v.block, m b = some v.text

@[simp] theorem own_text (x : τ) : (own x : View β τ).text = x := rfl

@[simp] theorem of_text (b : β) (x : τ) : (of b x).text = x := rfl

@[simp] theorem valid_own (m : Store β τ) (x : τ) : (own x).Valid m := by
  intro b hb
  simp [own] at hb

@[simp] theorem valid_of (m : Store β τ) (b : β) (x : τ) : (of b x).Valid m ↔ m b = some x := by
  constructor
  · intro h
    exact h b rfl
  · rintro h c ⟨⟩
    exact h

/-- No view outlives its block. -/
theorem not_valid_of_none {m : Store β τ} {v : View β τ} {b : β} (hb : v.block = some b)
    (hm : m b = none) : ¬ v.Valid m := by
  intro h
  have hlive := h b hb
  rw [hm] at hlive
  cases hlive

end View

namespace Store

variable [DecidableEq β]

/-- The block comes to life. -/
def enter (m : Store β τ) (b : β) (x : τ) : Store β τ := Function.update m b (some x)

/-- The contents of the block change; nothing happens to a block that is not live. -/
def write (m : Store β τ) (b : β) (x : τ) : Store β τ :=
  Function.update m b ((m b).map fun _ => x)

/-- The block's life ends. -/
def leave (m : Store β τ) (b : β) : Store β τ := Function.update m b none

variable (m : Store β τ) {b c : β} (x : τ)

@[simp] theorem enter_self : m.enter b x b = some x := Function.update_self b _ m

@[simp] theorem leave_self : m.leave b b = none := Function.update_self b _ m

theorem enter_of_ne (h : c ≠ b) : m.enter b x c = m c := Function.update_of_ne h _ m

theorem write_of_ne (h : c ≠ b) : m.write b x c = m c := Function.update_of_ne h _ m

theorem leave_of_ne (h : c ≠ b) : m.leave b c = m c := Function.update_of_ne h _ m

/-- A scope that has been entered and left leaves nothing behind. -/
theorem leave_enter (h : m b = none) : (m.enter b x).leave b = m := by
  unfold leave enter
  rw [Function.update_idem, ← h, Function.update_eq_self]

end Store

end ScopedStorage
