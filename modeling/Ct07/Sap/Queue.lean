/-
# The queue template of the SAP socket (`rilSocketQueue.h`)

A linked list of requests that is pushed at the front, and from which an element is removed by
a scan for a key.

* `RilQueue.Holds` : the elements of the queue, the newest first;
* `RilQueue.enqueue_holds`, `RilQueue.checkAndDequeue_eq` : what the two operations do to them.
-/
import Ct07.Lib.Chain

open LinkedChain

namespace Sap

variable {α : Type*} [DecidableEq α]

/-- `Ril_queue<T>`, with the links of its elements. -/
structure RilQueue (α : Type*) where
  front : Option α
  pNext : α → Option α

namespace RilQueue

def empty : RilQueue α := ⟨none, fun _ => none⟩

/-- `Ril_queue<T>::enqueue` -/
def enqueue (q : RilQueue α) (request : α) : RilQueue α :=
  match q.front with
  | none => { front := some request, pNext := Function.update q.pNext request none }
  | some a => { front := some request, pNext := Function.update q.pNext request (some a) }

/-- `Ril_queue<T>::checkAndDequeue`, with the comparison of the key as a parameter: the element
that is removed, and the queue.  The budget is spent one step for each element. -/
def checkAndDequeue (q : RilQueue α) (budget : ℕ) (isKey : α → Bool) : Option α × RilQueue α :=
  match findWith q.pNext isKey budget .head q.front with
  | none => (none, q)
  | some (place, temp) =>
      (some temp, ⟨writeHead q.front (q.pNext temp) place, writeLink q.pNext (q.pNext temp) place⟩)

/-- The elements whose key the scan compares. -/
def compared (q : RilQueue α) (budget : ℕ) (isKey : α → Bool) : List α :=
  tested q.pNext isKey budget q.front

/-- The elements of the queue, the newest first. -/
def Holds (q : RilQueue α) (l : List α) : Prop := Spans q.pNext q.front l

variable {q : RilQueue α} {l : List α}

omit [DecidableEq α] in
theorem Holds.unique {l' : List α} (h : q.Holds l) (h' : q.Holds l') : l = l' :=
  Spans.unique h h'

omit [DecidableEq α] in
theorem mem_of_compared (h : q.Holds l) {budget : ℕ} {isKey : α → Bool} {a : α}
    (ha : a ∈ q.compared budget isKey) : a ∈ l :=
  mem_of_tested h ha

theorem enqueue_holds (h : q.Holds l) {a : α} (ha : a ∉ l) : (q.enqueue a).Holds (a :: l) := by
  have hpush : Spans (Function.update q.pNext a q.front) (some a) (a :: l) := Spans.push h ha
  cases hfront : q.front with
  | none =>
      rw [hfront] at hpush
      simpa only [Holds, enqueue, hfront] using hpush
  | some b =>
      rw [hfront] at hpush
      simpa only [Holds, enqueue, hfront] using hpush

/-- What a removal by a test takes out is what a search by it finds. -/
theorem eraseP_eq_erase {test : α → Bool} {t : α} (hfind : l.find? test = some t) :
    l.eraseP test = l.erase t := by
  obtain ⟨hkey, before, after, rfl, hbefore⟩ := List.find?_eq_some_iff_append.1 hfind
  have hnot : ∀ a ∈ before, ¬ test a = true := fun a ha => by simpa using hbefore a ha
  have hmem : t ∉ before := fun hm => hnot t hm hkey
  rw [List.eraseP_append_right _ hnot, List.eraseP_cons_of_pos hkey,
    List.erase_append_right _ hmem, List.erase_cons_head]

/-- What is removed is the newest element with the key. -/
theorem checkAndDequeue_eq (h : q.Holds l) (hnd : l.Nodup) {budget : ℕ} (hb : l.length ≤ budget)
    (isKey : α → Bool) :
    (q.checkAndDequeue budget isKey).1 = l.find? isKey ∧
      (q.checkAndDequeue budget isKey).2.Holds (l.eraseP isKey) := by
  cases hfind : findWith q.pNext isKey budget .head q.front with
  | none =>
      have hnone : l.find? isKey = none := by
        rw [findWith_eq h isKey hb] at hfind
        by_contra hne
        obtain ⟨t, ht⟩ := Option.ne_none_iff_exists'.1 hne
        obtain ⟨place, hplace⟩ := Option.isSome_iff_exists.1
          ((predecessor_isSome Place.head).2 (List.mem_of_find?_eq_some ht))
        simp [ht, hplace] at hfind
      have herase : l.eraseP isKey = l :=
        List.eraseP_of_forall_not fun a ha => by simpa using List.find?_eq_none.1 hnone a ha
      simp only [checkAndDequeue, hfind]
      exact ⟨hnone.symm, herase.symm ▸ h⟩
  | some found =>
      obtain ⟨place, t⟩ := found
      obtain ⟨ht, hspans⟩ := spans_unlink_find h hnd hb hfind
      simp only [checkAndDequeue, hfind]
      exact ⟨ht.symm, (eraseP_eq_erase ht).symm ▸ hspans⟩

end RilQueue

/-- In a list with the newest first, an element is the first to pass a test when no newer one
passes. -/
theorem find_eq_some_iff_newest {l : List ℕ} (hsorted : l.Pairwise fun a b => b < a) {r : ℕ}
    (hr : r ∈ l) {test : ℕ → Bool} (htest : test r = true) :
    l.find? test = some r ↔ ∀ a ∈ l, r < a → test a = false := by
  induction l with
  | nil => exact absurd hr List.not_mem_nil
  | cons b l ih =>
      obtain ⟨hb, hl⟩ := List.pairwise_cons.1 hsorted
      rcases List.mem_cons.1 hr with rfl | hr
      · rw [List.find?_cons_of_pos htest]
        refine ⟨fun _ a ha hlt => ?_, fun _ => rfl⟩
        rcases List.mem_cons.1 ha with rfl | ha
        · omega
        · have := hb a ha
          omega
      · have hlt := hb r hr
        cases hbt : test b with
        | true =>
            rw [List.find?_cons_of_pos hbt]
            constructor
            · intro heq
              cases Option.some.inj heq
              omega
            · intro hall
              exact absurd (hall b List.mem_cons_self hlt) (by simp [hbt])
        | false =>
            rw [List.find?_cons_of_neg (by simp [hbt]), ih hl hr]
            constructor
            · intro hall a ha hra
              rcases List.mem_cons.1 ha with rfl | ha
              · exact hbt
              · exact hall a ha hra
            · exact fun hall a ha => hall a (List.mem_cons_of_mem b ha)

end Sap
