/-
# Allocation ledgers

A ledger records what is done to blocks of memory: allocations, frees, and reads or writes
in between.  The blocks are told apart by a type `β` of names; a name stands for one block
only, so nothing is said about memory that is used again.

* `Ledger`, `Access` : the record, the newest entry first;
* `Live` : the block is allocated and not freed;
* `Clean` : every access was to a live block;
* `Clean.touches` : live blocks may be read and written in any order;
* `Owns` : the blocks that are live, as a list, with a rule for each access;
* `Owns.balanced_iff` : everything is freed again exactly when the list is empty.
-/
import Mathlib.Data.List.Basic
import Mathlib.Data.List.Count
import Mathlib.Data.List.Perm.Basic
import Mathlib.Data.Nat.Notation

namespace AllocationLedger

/-- What is done to a block. -/
inductive Access (β : Type*) where
  | alloc (b : β)
  | free (b : β)
  | touch (b : β)
  deriving DecidableEq

/-- What has been done, the newest first. -/
abbrev Ledger (β : Type*) := List (Access β)

variable {β : Type*} [DecidableEq β]

/-- How often a block was allocated. -/
def allocs (b : β) (l : Ledger β) : ℕ := l.count (.alloc b)

/-- How often a block was freed. -/
def frees (b : β) (l : Ledger β) : ℕ := l.count (.free b)

def Live (b : β) (l : Ledger β) : Prop := frees b l < allocs b l

instance (b : β) (l : Ledger β) : Decidable (Live b l) := inferInstanceAs (Decidable (_ < _))

/-- Only a live block may be freed, read or written. -/
def Access.Allowed (l : Ledger β) : Access β → Prop
  | .alloc _ => True
  | .free b => Live b l
  | .touch b => Live b l

instance (l : Ledger β) (a : Access β) : Decidable (a.Allowed l) := by
  unfold Access.Allowed
  cases a <;> infer_instance

/-- Every access was allowed when it was made. -/
def Clean : Ledger β → Prop
  | [] => True
  | a :: l => a.Allowed l ∧ Clean l

instance Clean.decidable : ∀ l : Ledger β, Decidable (Clean l)
  | [] => isTrue trivial
  | a :: l =>
      have : Decidable (Clean l) := Clean.decidable l
      inferInstanceAs (Decidable (a.Allowed l ∧ Clean l))

section Counts

variable (b c : β) (l : Ledger β)

@[simp] theorem allocs_nil : allocs b [] = 0 := rfl

@[simp] theorem frees_nil : frees b [] = 0 := rfl

@[simp] theorem allocs_alloc :
    allocs b (.alloc c :: l) = allocs b l + if c = b then 1 else 0 := by
  simp [allocs, List.count_cons]

@[simp] theorem allocs_free : allocs b (.free c :: l) = allocs b l := by
  simp [allocs]

@[simp] theorem allocs_touch : allocs b (.touch c :: l) = allocs b l := by
  simp [allocs]

@[simp] theorem frees_alloc : frees b (.alloc c :: l) = frees b l := by
  simp [frees]

@[simp] theorem frees_free :
    frees b (.free c :: l) = frees b l + if c = b then 1 else 0 := by
  simp [frees, List.count_cons]

@[simp] theorem frees_touch : frees b (.touch c :: l) = frees b l := by
  simp [frees]

end Counts

/-! ## Reads and writes -/

section Touches

variable {l : Ledger β}

@[simp] theorem allocs_touches (b : β) (ts : List β) (l : Ledger β) :
    allocs b (ts.map .touch ++ l) = allocs b l := by
  induction ts with
  | nil => rfl
  | cons c ts ih => rw [List.map_cons, List.cons_append, allocs_touch, ih]

@[simp] theorem frees_touches (b : β) (ts : List β) (l : Ledger β) :
    frees b (ts.map .touch ++ l) = frees b l := by
  induction ts with
  | nil => rfl
  | cons c ts ih => rw [List.map_cons, List.cons_append, frees_touch, ih]

/-- Live blocks may be read and written in any order. -/
theorem Clean.touches (h : Clean l) {ts : List β} (hts : ∀ b ∈ ts, Live b l) :
    Clean (ts.map .touch ++ l) := by
  induction ts with
  | nil => exact h
  | cons c ts ih =>
      refine ⟨?_, ih fun b hb => hts b (List.mem_cons_of_mem c hb)⟩
      show frees c (ts.map .touch ++ l) < allocs c (ts.map .touch ++ l)
      rw [frees_touches, allocs_touches]
      exact hts c List.mem_cons_self

end Touches

/-! ## What is left to free -/

/-- The ledger is clean, and what is live is the list, a block as often as it stands there. -/
def Owns (l : Ledger β) (o : List β) : Prop :=
  Clean l ∧ ∀ b, allocs b l = frees b l + o.count b

/-- The ledger is clean, and each block is freed as often as it is allocated. -/
def Balanced (l : Ledger β) : Prop := Clean l ∧ ∀ b, frees b l = allocs b l

section Owns

variable {l : Ledger β} {o o' : List β} {b : β}

theorem owns_nil : Owns ([] : Ledger β) [] := ⟨trivial, fun _ => rfl⟩

theorem Owns.perm (h : Owns l o) (hperm : o.Perm o') : Owns l o' := by
  refine ⟨h.1, ?_⟩
  intro b
  rw [← hperm.count_eq]
  exact h.2 b

theorem Owns.alloc (h : Owns l o) (b : β) : Owns (.alloc b :: l) (b :: o) := by
  refine ⟨⟨trivial, h.1⟩, ?_⟩
  intro c
  have hc := h.2 c
  rw [allocs_alloc, frees_alloc, List.count_cons]
  simp only [beq_iff_eq]
  omega

/-- What is owned may be read and written. -/
theorem Owns.touch (h : Owns l o) (hb : b ∈ o) : Owns (.touch b :: l) o := by
  have hlive : Live b l := by
    have hcount := List.count_pos_iff.2 hb
    have hown := h.2 b
    show frees b l < allocs b l
    omega
  refine ⟨⟨hlive, h.1⟩, ?_⟩
  intro c
  rw [allocs_touch, frees_touch]
  exact h.2 c

theorem Owns.free (h : Owns l (b :: o)) : Owns (.free b :: l) o := by
  -- `b` stands in the list, so that it has been allocated once more than freed
  have hlive : Live b l := by
    have hb := h.2 b
    rw [List.count_cons_self] at hb
    show frees b l < allocs b l
    omega
  refine ⟨⟨hlive, h.1⟩, ?_⟩
  intro c
  have hc := h.2 c
  rw [List.count_cons] at hc
  simp only [beq_iff_eq] at hc
  rw [allocs_free, frees_free]
  omega

/-- Everything is freed again exactly when nothing is live. -/
theorem Owns.balanced_iff (h : Owns l o) : Balanced l ↔ o = [] := by
  constructor
  · intro hbalanced
    rw [List.eq_nil_iff_forall_not_mem]
    intro b hb
    have hcount := List.count_pos_iff.2 hb
    have hlive := h.2 b
    have hfreed := hbalanced.2 b
    omega
  · rintro rfl
    refine ⟨h.1, ?_⟩
    intro b
    have hb := h.2 b
    rw [List.count_nil] at hb
    omega

end Owns

end AllocationLedger
