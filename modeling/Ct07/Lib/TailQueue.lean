/-
# Singly linked queues with a tail pointer

A queue of cells that is taken from at the head and appended to at the tail.  The
links of the cells are a function `next : α → Option α`; the queue itself is the head
and the tail, both null when it is empty.

* `Holds` : the queue holds a list of cells;
* `append`, `pop` : the two operations, as the sequence of their writes;
* `Holds.append`, `Holds.pop` : they are those of a list.
-/
import Ct07.Lib.Chain

open LinkedChain

namespace TailQueue

variable {α : Type*} [DecidableEq α]

/-- The head and the tail of a queue. -/
structure Queue (α : Type*) where
  head : Option α
  tail : Option α
  deriving DecidableEq

/-- The empty queue. -/
def Queue.empty (α : Type*) : Queue α := ⟨none, none⟩

/-- From the head the cells of `l` are reached, and the tail is the last of them. -/
structure Holds (next : α → Option α) (q : Queue α) (l : List α) : Prop where
  spans : Spans next q.head l
  tail : q.tail = l.getLast?

/-- The links after `a` has been appended to `q`. -/
def appendLinks (next : α → Option α) (q : Queue α) (a : α) : α → Option α :=
  match q.tail with
  | some t => Function.update (Function.update next a none) t (some a)
  | none => Function.update next a none

/-- The queue after `a` has been appended to it. -/
def Queue.append (q : Queue α) (a : α) : Queue α :=
  match q.tail with
  | some _ => { q with tail := some a }
  | none => { head := some a, tail := some a }

/-- The queue after its head `a` has been taken off. -/
def Queue.pop (next : α → Option α) (q : Queue α) (a : α) : Queue α :=
  if next a = none then ⟨none, none⟩ else ⟨next a, q.tail⟩

omit [DecidableEq α] in
theorem holds_empty (next : α → Option α) : Holds next (Queue.empty α) [] := ⟨rfl, rfl⟩

omit [DecidableEq α] in
/-- The head is null exactly when the tail is. -/
theorem Holds.head_eq_none_iff {next : α → Option α} {q : Queue α} {l : List α}
    (h : Holds next q l) : q.head = none ↔ q.tail = none := by
  rw [h.tail, List.getLast?_eq_none_iff]
  constructor
  · intro hhead
    have hspans := h.spans
    rw [hhead] at hspans
    exact spans_none hspans
  · rintro rfl
    exact h.spans

omit [DecidableEq α] in
/-- The tail is a cell of the queue. -/
theorem Holds.tail_mem {next : α → Option α} {q : Queue α} {l : List α} (h : Holds next q l)
    {t : α} (ht : q.tail = some t) : t ∈ l :=
  List.mem_of_getLast? (h.tail.symm.trans ht)

omit [DecidableEq α] in
/-- A queue only depends on the links of its own cells. -/
theorem Holds.congr {next next' : α → Option α} {q : Queue α} {l : List α}
    (h : Holds next q l) (heq : ∀ a ∈ l, next' a = next a) : Holds next' q l :=
  ⟨h.spans.congr heq, h.tail⟩

/-- Appending writes the links of the new cell and of the tail. -/
theorem appendLinks_of_ne {next : α → Option α} {q : Queue α} {a b : α} (hb : b ≠ a)
    (ht : q.tail ≠ some b) : appendLinks next q a b = next b := by
  cases htail : q.tail with
  | none =>
      simp only [appendLinks, htail]
      exact Function.update_of_ne hb _ _
  | some t =>
      have hbt : b ≠ t := fun hbt => ht (htail.trans (congrArg some hbt.symm))
      simp only [appendLinks, htail]
      rw [Function.update_of_ne hbt, Function.update_of_ne hb]

/-- Following the links from a cell of the chain that is not the last. -/
theorem spans_append {next : α → Option α} {p : Option α} {l : List α} {t a : α}
    (h : Spans next p (l ++ [t])) (hnd : (l ++ [t]).Nodup) (ha : a ∉ l ++ [t]) :
    Spans (Function.update (Function.update next a none) t (some a)) p (l ++ [t, a]) := by
  induction l generalizing p with
  | nil =>
      have hat : a ≠ t := by simpa using ha
      refine ⟨h.1, ?_, ?_⟩
      · rw [Function.update_self]
      · rw [Function.update_of_ne hat, Function.update_self]
        rfl
  | cons b l ih =>
      have hbt : b ≠ t := by
        rintro rfl
        simp at hnd
      have hba : b ≠ a := by
        rintro rfl
        simp at ha
      refine ⟨h.1, ?_⟩
      rw [Function.update_of_ne hbt, Function.update_of_ne hba]
      exact ih h.2 (List.nodup_cons.1 hnd).2 fun hm => ha (List.mem_cons_of_mem b hm)

/-- **Appending.**  A new cell comes behind the others. -/
theorem Holds.append {next : α → Option α} {q : Queue α} {l : List α} (h : Holds next q l)
    (hnd : l.Nodup) {a : α} (ha : a ∉ l) :
    Holds (appendLinks next q a) (q.append a) (l ++ [a]) := by
  rcases List.eq_nil_or_concat l with rfl | ⟨m, t, rfl⟩
  · have htail : q.tail = none := h.tail
    refine ⟨?_, ?_⟩
    · simp [Queue.append, appendLinks, htail, Spans]
    · simp [Queue.append, htail]
  · have htail : q.tail = some t := by simpa using h.tail
    refine ⟨?_, ?_⟩
    · have hspans := spans_append (by simpa using h.spans) (by simpa using hnd) (by simpa using ha)
      simpa [Queue.append, appendLinks, htail] using hspans
    · simp [Queue.append, htail]

omit [DecidableEq α] in
/-- **Taking.**  The head leaves the queue, and the others stay in their order. -/
theorem Holds.pop {next : α → Option α} {q : Queue α} {a : α} {l : List α}
    (h : Holds next q (a :: l)) : q.head = some a ∧ Holds next (q.pop next a) l := by
  obtain ⟨hhead, hrest⟩ := h.spans
  refine ⟨hhead, ?_⟩
  have htail := h.tail
  cases l with
  | nil =>
      have hnone : next a = none := hrest
      refine ⟨?_, ?_⟩
      · simp [Queue.pop, hnone, Spans]
      · simp [Queue.pop, hnone]
  | cons b l =>
      have hsome : next a = some b := hrest.1
      refine ⟨?_, ?_⟩
      · simpa [Queue.pop, hsome] using hrest
      · simpa [Queue.pop, hsome] using htail

end TailQueue
