/-
# Cells that keep the latest value

A component keeps a value for each key, and an event writes at most one of them.  What a cell
holds is then told by the events that came so far: the value that was written to it last.

* `store` : the cells after an event;
* `latest` : the last value that is written to a cell, `foldl_store`;
* `foldl_cells` : the same for cells that are a part of a state;
* `latest_filter` : the events of other keys do not matter.
-/
import Mathlib.Logic.Function.Basic
import Mathlib.Data.List.Induction

namespace LatestValue

variable {κ α ε : Type*} [DecidableEq κ] (write : ε → Option (κ × α))

/-- The cells after an event. -/
def store (cells : κ → Option α) (e : ε) : κ → Option α :=
  match write e with
  | some (k, a) => Function.update cells k (some a)
  | none => cells

/-- The value that an event writes to a cell. -/
def written (k : κ) (e : ε) : Option α :=
  (write e).bind fun w => if w.1 = k then some w.2 else none

/-- The last value that is written to a cell. -/
def latest (k : κ) (es : List ε) : Option α := (es.filterMap (written write k)).getLast?

variable {write} {k : κ} {e : ε}

theorem store_apply (cells : κ → Option α) :
    store write cells e k = (written write k e).or (cells k) := by
  unfold store written
  cases write e with
  | none => rfl
  | some w =>
      obtain ⟨k', a⟩ := w
      by_cases hk : k' = k
      · subst hk
        simp
      · have hne : k ≠ k' := fun h => hk h.symm
        simp [hk, Function.update_of_ne hne]

theorem written_eq_none (h : write e = none) : written write k e = none := by
  rw [written, h]
  rfl

theorem latest_concat (es : List ε) :
    latest write k (es ++ [e]) = (written write k e).or (latest write k es) := by
  rw [latest, List.filterMap_append, List.getLast?_append, latest]
  congr 1
  cases hw : written write k e with
  | none => rw [List.filterMap_cons_none hw, List.filterMap_nil, List.getLast?_nil]
  | some a => rw [List.filterMap_cons_some hw, List.filterMap_nil, List.getLast?_singleton]

/-- A cell holds the value that was written to it last. -/
theorem foldl_store (cells : κ → Option α) (es : List ε) :
    (es.foldl (store write) cells) k = (latest write k es).or (cells k) := by
  induction es using List.reverseRecOn with
  | nil => rfl
  | append_singleton es e ih =>
      rw [List.foldl_append, List.foldl_cons, List.foldl_nil, store_apply, ih, latest_concat,
        Option.or_assoc]

/-- The cells are a part of a state, of which an invariant is known. -/
theorem foldl_cells {σ : Type*} {step : σ → ε → σ} {cells : σ → κ → Option α} {I : σ → Prop}
    (hinv : ∀ s e, I s → I (step s e))
    (hcells : ∀ s e, I s → cells (step s e) = store write (cells s) e) {s : σ} (hs : I s)
    (es : List ε) : cells (es.foldl step s) k = (latest write k es).or (cells s k) := by
  have hboth : I (es.foldl step s) ∧ cells (es.foldl step s) = es.foldl (store write) (cells s) := by
    induction es using List.reverseRecOn with
    | nil => exact ⟨hs, rfl⟩
    | append_singleton es e ih =>
        simp only [List.foldl_append, List.foldl_cons, List.foldl_nil]
        exact ⟨hinv _ e ih.1, by rw [hcells _ e ih.1, ih.2]⟩
  rw [hboth.2, foldl_store]

/-- An event that does not write to the cell may be left out. -/
theorem latest_append_cons (h : written write k e = none) (es es' : List ε) :
    latest write k (es ++ e :: es') = latest write k (es ++ es') := by
  rw [latest, latest, List.filterMap_append, List.filterMap_cons_none h, ← List.filterMap_append]

/-- The events that write to the cell tell what it holds. -/
theorem latest_filter {p : ε → Bool} (es : List ε)
    (hp : ∀ e, (written write k e).isSome → p e = true) :
    latest write k (es.filter p) = latest write k es := by
  have hsame : (fun e => if p e = true then written write k e else none) = written write k := by
    funext e
    cases hw : written write k e with
    | none => exact ite_self none
    | some a => exact if_pos (hp e (by rw [hw]; rfl))
  rw [latest, List.filterMap_filter, hsame, latest]

end LatestValue
