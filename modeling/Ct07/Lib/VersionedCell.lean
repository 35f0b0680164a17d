/-
# Cells with a version counter

Every write to the cell raises its counter.  Who has seen a value along with the counter
can tell later, from the counter alone, whether the cell still holds that value: it does
as long as the counter is the same (`Seen.value`), whatever was written in between
(`Seen.write`, `Seen.update_write`).
-/
import Mathlib.Data.Nat.Init
import Mathlib.Logic.Function.Basic

namespace VersionedCell

variable {α : Type*}

/-- A value and its counter. -/
structure Cell (α : Type*) where
  value : α
  version : ℕ

/-- A write. -/
def Cell.write (c : Cell α) (a : α) : Cell α := ⟨a, c.version + 1⟩

@[simp] theorem write_value (c : Cell α) (a : α) : (c.write a).value = a := rfl

@[simp] theorem write_version (c : Cell α) (a : α) : (c.write a).version = c.version + 1 := rfl

/-- The value `a` was seen in the cell when its counter was `n`. -/
structure Cell.Seen (c : Cell α) (n : ℕ) (a : α) : Prop where
  le : n ≤ c.version
  value : c.version = n → c.value = a

theorem seen_self (c : Cell α) : c.Seen c.version c.value := ⟨Nat.le_refl _, fun _ => rfl⟩

/-- What was seen stays seen. -/
theorem Cell.Seen.write {c : Cell α} {n : ℕ} {a : α} (h : c.Seen n a) (b : α) :
    (c.write b).Seen n a := by
  have hlt : n < (c.write b).version := Nat.lt_succ_of_le h.le
  exact ⟨Nat.le_of_lt hlt, fun heq => absurd heq (Nat.ne_of_gt hlt)⟩

/-- It stays seen when any one of several cells is written to. -/
theorem Cell.Seen.update_write {ι : Type*} [DecidableEq ι] {cell : ι → Cell α} {i : ι} {n : ℕ}
    {a : α} (h : (cell i).Seen n a) (j : ι) (b : α) :
    (Function.update cell j ((cell j).write b) i).Seen n a := by
  by_cases hij : i = j
  · subst hij
    rw [Function.update_self]
    exact h.write b
  · rwa [Function.update_of_ne hij]

end VersionedCell
