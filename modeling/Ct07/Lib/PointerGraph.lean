/-
# Objects that point to each other

A store gives, for an address, the cells that are found from there on; a cell is a word or a
pointer, null or an address.  Two rows of cells, each with a store of its own, hold the same
when their words agree and their pointers lead to rows that hold the same.  As pointers may
run in circles, this is said to every depth.

* `SameCell`, `Same` : to a depth, and to every depth;
* `same_of_kept` : rows hold the same in two stores that agree on all that is reached;
* `not_same_of_dangling` : no row holds the same with a pointer that has come to dangle.
-/
import Mathlib.Data.List.Forall2
import Mathlib.Data.Nat.Notation

namespace PointerGraph

/-- A word, or a pointer to an address. -/
inductive Cell (ω α : Type*) where
  | word (w : ω)
  | ptr (p : Option α)
  deriving DecidableEq

/-- The addresses to which the cells point. -/
def targets {ω α : Type*} (cells : List (Cell ω α)) : List α :=
  cells.filterMap fun c => match c with
    | .word _ => none
    | .ptr p => p

variable {ω α : Type*}

theorem mem_targets {cells : List (Cell ω α)} {a : α} :
    a ∈ targets cells ↔ .ptr (some a) ∈ cells := by
  unfold targets
  rw [List.mem_filterMap]
  constructor
  · rintro ⟨c, hc, h⟩
    cases c with
    | word w => cases h
    | ptr p =>
        cases h
        exact hc
  · intro h
    exact ⟨.ptr (some a), h, rfl⟩

@[simp] theorem targets_append (xs ys : List (Cell ω α)) :
    targets (xs ++ ys) = targets xs ++ targets ys := List.filterMap_append

/-- Words point nowhere. -/
theorem targets_map_word {β : Type*} (f : β → ω) (xs : List β) :
    targets (xs.map fun x => (.word (f x) : Cell ω α)) = [] := by
  induction xs with
  | nil => rfl
  | cons x xs ih => exact ih

/-- What is found from an address on, if anything is. -/
abbrev Cells (ω α : Type*) := α → Option (List (Cell ω α))

variable (s s' : Cells ω α)

/-- The cells hold the same, as far as `n` pointers lead. -/
def SameCell : ℕ → Cell ω α → Cell ω α → Prop
  | _, .word x, .word y => x = y
  | _, .ptr none, .ptr none => True
  | 0, .ptr (some _), .ptr (some _) => True
  | n + 1, .ptr (some a), .ptr (some b) =>
      ∃ xs ys, s a = some xs ∧ s' b = some ys ∧ List.Forall₂ (SameCell n) xs ys
  | _, _, _ => False

/-- The rows hold the same, however far the pointers lead. -/
def Same (xs ys : List (Cell ω α)) : Prop := ∀ n, List.Forall₂ (SameCell s s' n) xs ys

variable {s s'}

theorem same_nil : Same s s' [] [] := fun _ => .nil

/-- `kept` holds the addresses at which both stores have the same row, and it is closed under
pointers. -/
theorem same_of_kept {kept : α → Prop}
    (hkept : ∀ a, kept a → ∃ xs, s a = some xs ∧ s' a = some xs ∧ ∀ b ∈ targets xs, kept b)
    {cells : List (Cell ω α)} (hcells : ∀ a ∈ targets cells, kept a) : Same s s' cells cells := by
  intro n
  induction n generalizing cells with
  | zero =>
      rw [List.forall₂_same]
      intro c _
      rcases c with w | _ | a
      · exact rfl
      · trivial
      · trivial
  | succ n ih =>
      rw [List.forall₂_same]
      intro c hc
      rcases c with w | _ | a
      · exact rfl
      · trivial
      · -- the row behind the pointer is kept, so that the induction applies to it
        obtain ⟨xs, hs, hs', hclosed⟩ := hkept a (hcells a (mem_targets.2 hc))
        exact ⟨xs, xs, hs, hs', ih hclosed⟩

/-- One pointer that leads nowhere is enough. -/
theorem not_same_of_dangling {cells : List (Cell ω α)} {a : α} (ha : a ∈ targets cells)
    (hdangling : s' a = none) : ¬ Same s s' cells cells := by
  intro h
  -- one step from the row is deep enough
  have hcell := (List.forall₂_same.1 (h 1)) _ (mem_targets.1 ha)
  obtain ⟨xs, ys, -, hys, -⟩ := hcell
  rw [hdangling] at hys
  cases hys

end PointerGraph
