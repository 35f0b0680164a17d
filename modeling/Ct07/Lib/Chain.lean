/-
# Singly linked chains

A heap of cells that each hold a link to a next cell is a function
`next : α → Option α`, where `none` is the null link.  A list kept in such a heap
is reached from a head link.  This file holds what a program that pushes at the
head and unlinks through a pointer to a pointer relies on:

* `Spans` : from the link `p`, the cells `l` are reached in order, up to null;
* `find` : the scan for the place that holds the link to a cell, with a step budget;
* `predecessor` : the place the scan finds;
* `spans_unlink` : writing the cell's own link there removes exactly that cell;
* `findWith`, `findWith_eq`, `spans_unlink_find` : the same for a scan that stops at the first cell
  that passes a test.
-/
import Mathlib.Data.List.Basic
import Mathlib.Data.Nat.Notation
import Mathlib.Logic.Function.Basic

namespace LinkedChain

variable {α : Type*} [DecidableEq α]

/-! ## Chains -/

/-- From the link `p`, following `next`, the cells of `l` are reached in order. -/
def Spans (next : α → Option α) : Option α → List α → Prop
  | p, [] => p = none
  | p, a :: l => p = some a ∧ Spans next (next a) l

/-- A place that holds a link: the head of the list, or the link of a cell. -/
inductive Place (α : Type*) where
  | head
  | link (a : α)
  deriving DecidableEq

omit [DecidableEq α] in
theorem spans_none {next : α → Option α} {l : List α} (h : Spans next none l) : l = [] := by
  cases l with
  | nil => rfl
  | cons a l => exact absurd h.1 (by simp)

omit [DecidableEq α] in
/-- The cells reached from a link are determined by it. -/
theorem Spans.unique {next : α → Option α} {p : Option α} {l l' : List α}
    (h : Spans next p l) (h' : Spans next p l') : l = l' := by
  induction l generalizing p l' with
  | nil =>
      cases h
      exact (spans_none h').symm
  | cons a l ih =>
      obtain ⟨hp, hl⟩ := h
      cases l' with
      | nil =>
          rw [hp] at h'
          exact absurd h' (by simp [Spans])
      | cons b l' =>
          obtain ⟨hp', hl'⟩ := h'
          rw [hp] at hp'
          cases Option.some.inj hp'
          rw [ih hl hl']

omit [DecidableEq α] in
/-- A chain only depends on the links of its own cells. -/
theorem Spans.congr {next next' : α → Option α} {p : Option α} {l : List α}
    (h : Spans next p l) (heq : ∀ a ∈ l, next' a = next a) : Spans next' p l := by
  induction l generalizing p with
  | nil => exact h
  | cons a l ih =>
      refine ⟨h.1, ?_⟩
      rw [heq a (by simp)]
      exact ih h.2 fun b hb => heq b (by simp [hb])

/-- Pushing a new cell in front of a chain. -/
theorem Spans.push {next : α → Option α} {p : Option α} {l : List α} (h : Spans next p l)
    {a : α} (ha : a ∉ l) : Spans (Function.update next a p) (some a) (a :: l) := by
  refine ⟨rfl, ?_⟩
  rw [Function.update_self]
  refine h.congr fun b hb => Function.update_of_ne ?_ _ _
  rintro rfl
  exact ha hb

/-! ## Finding the place that links a cell -/

/-- The scan of a pointer to a pointer: `place` holds the link `p`; step on until the
link leads to `t`.  `none` when null is reached, or the budget is spent. -/
def find (next : α → Option α) (t : α) : ℕ → Place α → Option α → Option (Place α)
  | 0, _, _ => none
  | _ + 1, _, none => none
  | n + 1, place, some a => if a = t then some place else find next t n (.link a) (next a)

/-- The place that links `t`, when `place` links the first cell of the list. -/
def predecessor (t : α) : Place α → List α → Option (Place α)
  | _, [] => none
  | place, a :: l => if a = t then some place else predecessor t (.link a) l

/-- With a budget of one step for each cell, the scan finds the predecessor. -/
theorem find_eq_predecessor {next : α → Option α} {p : Option α} {l : List α}
    (h : Spans next p l) (t : α) {n : ℕ} (hn : l.length ≤ n) (place : Place α) :
    find next t n place p = predecessor t place l := by
  induction l generalizing n p place with
  | nil =>
      cases h
      cases n <;> rfl
  | cons a l ih =>
      obtain ⟨rfl, hl⟩ := h
      cases n with
      | zero => simp at hn
      | succ n =>
          simp only [List.length_cons, Nat.add_le_add_iff_right] at hn
          simp only [find, predecessor, ih hl hn]

theorem predecessor_isSome {t : α} (place : Place α) {l : List α} :
    (predecessor t place l).isSome ↔ t ∈ l := by
  induction l generalizing place with
  | nil => simp [predecessor]
  | cons a l ih =>
      by_cases ha : a = t
      · simp [predecessor, ha]
      · simp [predecessor, ha, ih, Ne.symm ha]

theorem predecessor_eq_none {t : α} (place : Place α) {l : List α} :
    predecessor t place l = none ↔ t ∉ l := by
  rw [← predecessor_isSome place]
  simp

/-- Behind the first cell, the place found is the link of a cell of the list. -/
theorem predecessor_link {t a : α} {l : List α} {place : Place α}
    (h : predecessor t (.link a) l = some place) : ∃ b ∈ a :: l, place = .link b := by
  induction l generalizing a with
  | nil => exact absurd h (by simp [predecessor])
  | cons c l ih =>
      by_cases hc : c = t
      · refine ⟨a, by simp, ?_⟩
        simpa [predecessor, hc, eq_comm] using h
      · obtain ⟨b, hb, hplace⟩ := ih (a := c) (by simpa [predecessor, hc] using h)
        exact ⟨b, List.mem_cons_of_mem a hb, hplace⟩

/-- A place in the heap that the scan finds belongs to a cell of the list. -/
theorem predecessor_mem {t b : α} {l : List α}
    (h : predecessor t .head l = some (.link b)) : b ∈ l := by
  cases l with
  | nil => exact absurd h (by simp [predecessor])
  | cons a l =>
      by_cases ha : a = t
      · simp [predecessor, ha] at h
      · obtain ⟨c, hc, hplace⟩ := predecessor_link (a := a) (by simpa [predecessor, ha] using h)
        cases hplace
        exact hc

/-! ## Unlinking -/

/-- The links after `q` has been written at `place`. -/
def writeLink (next : α → Option α) (q : Option α) : Place α → α → Option α
  | .head => next
  | .link a => Function.update next a q

/-- The head after `q` has been written at `place`. -/
def writeHead (p q : Option α) : Place α → Option α
  | .head => q
  | .link _ => p

/-- Unlinking behind the cell `a` that links the list. -/
theorem spans_unlink_link {next : α → Option α} {t a b : α} {l : List α}
    (h : Spans next (next a) l) (hnd : (a :: l).Nodup)
    (hfind : predecessor t (.link a) l = some (.link b)) :
    Spans (Function.update next b (next t)) (Function.update next b (next t) a)
      (l.erase t) := by
  induction l generalizing a with
  | nil => exact absurd hfind (by simp [predecessor])
  | cons c l ih =>
      obtain ⟨hac, hl⟩ := h
      have hal : a ∉ c :: l := (List.nodup_cons.1 hnd).1
      have hnd' : (c :: l).Nodup := (List.nodup_cons.1 hnd).2
      by_cases hc : c = t
      · have hb : a = b := by simpa [predecessor, hc] using hfind
        rw [← hb, Function.update_self, ← hc, List.erase_cons_head]
        refine hl.congr fun d hd => Function.update_of_ne ?_ _ _
        rintro rfl
        exact hal (List.mem_cons_of_mem c hd)
      · have hfind' : predecessor t (.link c) l = some (.link b) := by
          simpa [predecessor, hc] using hfind
        obtain ⟨d, hd, hplace⟩ := predecessor_link hfind'
        cases hplace
        have hab : a ≠ b := fun hab => hal (hab ▸ hd)
        rw [Function.update_of_ne hab, List.erase_cons_tail (by simpa using hc)]
        exact ⟨hac, ih hl hnd' hfind'⟩

/-- **Unlinking through the place found removes exactly the cell.** -/
theorem spans_unlink {next : α → Option α} {p : Option α} {t : α} {l : List α}
    {place : Place α} (h : Spans next p l) (hnd : l.Nodup)
    (hfind : predecessor t .head l = some place) :
    Spans (writeLink next (next t) place) (writeHead p (next t) place) (l.erase t) := by
  cases l with
  | nil => exact absurd hfind (by simp [predecessor])
  | cons a l =>
      obtain ⟨rfl, hl⟩ := h
      by_cases ha : a = t
      · have hplace : Place.head = place := by simpa [predecessor, ha] using hfind
        rw [← hplace, ha, List.erase_cons_head]
        exact ha ▸ hl
      · have hfind' : predecessor t (.link a) l = some place := by
          simpa [predecessor, ha] using hfind
        obtain ⟨b, -, rfl⟩ := predecessor_link hfind'
        rw [List.erase_cons_tail (by simpa using ha)]
        exact ⟨rfl, spans_unlink_link hl hnd hfind'⟩

/-! ## A scan by a test -/

omit [DecidableEq α]

/-- The scan with a test of the cell: the place that links the first cell that passes, and
the cell. -/
def findWith (next : α → Option α) (test : α → Bool) :
    ℕ → Place α → Option α → Option (Place α × α)
  | 0, _, _ => none
  | _ + 1, _, none => none
  | n + 1, place, some a =>
      if test a then some (place, a) else findWith next test n (.link a) (next a)

/-- The cells that the scan tests, in order. -/
def tested (next : α → Option α) (test : α → Bool) : ℕ → Option α → List α
  | 0, _ => []
  | _ + 1, none => []
  | n + 1, some a => if test a then [a] else a :: tested next test n (next a)

/-- The scan does not leave the list. -/
theorem mem_of_tested {next : α → Option α} {p : Option α} {l : List α} (h : Spans next p l)
    {test : α → Bool} {n : ℕ} {a : α} (ha : a ∈ tested next test n p) : a ∈ l := by
  induction l generalizing n p with
  | nil =>
      cases h
      cases n <;> simp [tested] at ha
  | cons b l ih =>
      obtain ⟨rfl, hl⟩ := h
      cases n with
      | zero => simp [tested] at ha
      | succ n =>
          rw [tested] at ha
          split at ha
          · exact List.mem_cons.2 (.inl (List.mem_singleton.1 ha))
          · rcases List.mem_cons.1 ha with rfl | ha
            · exact List.mem_cons_self
            · exact List.mem_cons_of_mem b (ih hl ha)

variable [DecidableEq α]

/-- With a budget of one step for each cell, the scan stops at the first cell that passes. -/
theorem findWith_eq {next : α → Option α} {p : Option α} {l : List α} (h : Spans next p l)
    (test : α → Bool) {n : ℕ} (hn : l.length ≤ n) (place : Place α) :
    findWith next test n place p =
      (l.find? test).bind fun t => (predecessor t place l).map fun q => (q, t) := by
  induction l generalizing n p place with
  | nil =>
      cases h
      cases n <;> rfl
  | cons a l ih =>
      obtain ⟨rfl, hl⟩ := h
      cases n with
      | zero => simp at hn
      | succ n =>
          simp only [List.length_cons, Nat.add_le_add_iff_right] at hn
          cases ha : test a with
          | true => simp [findWith, ha, predecessor]
          | false =>
              simp only [findWith, List.find?_cons, ha, ih hl hn, Bool.false_eq_true, if_false]
              cases hfind : l.find? test with
              | none => rfl
              | some t =>
                  have hat : a ≠ t := by
                    rintro rfl
                    exact absurd (List.find?_some hfind) (by simp [ha])
                  simp only [Option.bind_some, predecessor, if_neg hat]

/-- **Unlinking what the scan stops at** removes the first cell that passes the test. -/
theorem spans_unlink_find {next : α → Option α} {p : Option α} {l : List α} (h : Spans next p l)
    (hnd : l.Nodup) {test : α → Bool} {n : ℕ} (hn : l.length ≤ n) {place : Place α} {t : α}
    (hfind : findWith next test n .head p = some (place, t)) :
    l.find? test = some t ∧
      Spans (writeLink next (next t) place) (writeHead p (next t) place) (l.erase t) := by
  rw [findWith_eq h test hn] at hfind
  obtain ⟨t', ht', hplace⟩ := Option.bind_eq_some_iff.1 hfind
  obtain ⟨q, hq, heq⟩ := Option.map_eq_some_iff.1 hplace
  cases heq
  exact ⟨ht', spans_unlink h hnd hq⟩

end LinkedChain
