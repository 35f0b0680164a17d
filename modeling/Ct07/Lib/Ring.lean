/-
# Circular doubly linked lists with a sentinel

An intrusive list kept in a ring: every cell holds a link to the next cell and a
link to the previous one, a list is a sentinel cell that is linked to itself when
the list is empty, and a cell that is on no list has null links.  Cells are
inserted in front of a given cell, and the first cell is removed.

* `insertBefore`, `remove` : the two operations, as the sequence of their writes;
  `none` when a null link is followed;
* `Segment`, `Ring` : what the links say about a list of cells;
* `Ring.insert`, `Ring.removeFirst` : what the operations do to it;
* `Ring.congr` : a ring only depends on the links of its own cells;
* `scan` : the walk along a ring while a test succeeds, with a step budget;
* `toList` : the cells that a walk around the ring meets.
-/
import Mathlib.Data.List.Basic
import Mathlib.Data.Nat.Notation
import Mathlib.Logic.Function.Basic

namespace LinkedRing

variable {α : Type*} [DecidableEq α]

/-! ## Links and the operations on them -/

/-- The links of all cells. -/
structure Links (α : Type*) where
  next : α → Option α
  prev : α → Option α

/-- No cell is linked. -/
def Links.null (α : Type*) : Links α := ⟨fun _ => none, fun _ => none⟩

/-- `a->next = p` -/
def Links.setNext (L : Links α) (a : α) (p : Option α) : Links α :=
  { L with next := Function.update L.next a p }

/-- `a->prev = p` -/
def Links.setPrev (L : Links α) (a : α) (p : Option α) : Links α :=
  { L with prev := Function.update L.prev a p }

@[simp] theorem Links.setNext_prev (L : Links α) (a : α) (p : Option α) :
    (L.setNext a p).prev = L.prev := rfl

@[simp] theorem Links.setPrev_next (L : Links α) (a : α) (p : Option α) :
    (L.setPrev a p).next = L.next := rfl

theorem Links.setNext_next (L : Links α) (a : α) (p : Option α) (b : α) :
    (L.setNext a p).next b = if b = a then p else L.next b := by
  simp [Links.setNext, Function.update_apply]

theorem Links.setPrev_prev (L : Links α) (a : α) (p : Option α) (b : α) :
    (L.setPrev a p).prev b = if b = a then p else L.prev b := by
  simp [Links.setPrev, Function.update_apply]

/-- Link the sentinel `s` to itself. -/
def Links.initList (L : Links α) (s : α) : Links α := (L.setNext s (some s)).setPrev s (some s)

/-- Insert `a` in front of `b`. -/
def insertBefore (L : Links α) (a b : α) : Option (Links α) := do
  let L := L.setNext a (some b)
  let L := L.setPrev a (L.prev b)
  let p ← L.prev a
  let L := L.setNext p (some a)
  some (L.setPrev b (some a))

/-- Take `a` out of its list and clear its links. -/
def remove (L : Links α) (a : α) : Option (Links α) := do
  let n ← L.next a
  let L := L.setPrev n (L.prev a)
  let p ← L.prev a
  let L := L.setNext p (L.next a)
  some ((L.setNext a none).setPrev a none)

/-- Walk along the next links while `go` succeeds; `none` at a null link, or when the
budget is spent. -/
def scan (L : Links α) (go : α → Bool) : ℕ → α → Option α
  | 0, _ => none
  | n + 1, a => if go a then (L.next a).bind (scan L go n) else some a

/-! ## Segments -/

/-- `b` follows `a`. -/
def Linked (L : Links α) (a b : α) : Prop := L.next a = some b ∧ L.prev b = some a

/-- Between `a` and `b` lie exactly the cells of the list, linked in both directions. -/
def Segment (L : Links α) : α → List α → α → Prop
  | a, [], b => Linked L a b
  | a, c :: l, b => Linked L a c ∧ Segment L c l b

/-- The first cell behind the sentinel `s` of a ring that holds `l`. -/
def first (s : α) (l : List α) : α := l.head?.getD s

omit [DecidableEq α] in
@[simp] theorem first_nil (s : α) : first s [] = s := rfl

omit [DecidableEq α] in
@[simp] theorem first_cons (s a : α) (l : List α) : first s (a :: l) = a := rfl

omit [DecidableEq α] in
theorem first_mem (s : α) (l : List α) : first s l ∈ s :: l := by
  cases l with
  | nil => simp
  | cons a l => simp

omit [DecidableEq α] in
/-- A cell that is not on the ring is not its first one. -/
theorem ne_first {s a : α} {l : List α} (ha : a ∉ s :: l) : a ≠ first s l :=
  fun h => ha (h ▸ first_mem s l)

omit [DecidableEq α] in
/-- Without its first cell a ring has no cell twice, and no longer has that one. -/
theorem nodup_cons_cons {s a : α} {l : List α} (h : (s :: a :: l).Nodup) :
    a ∉ s :: l ∧ (s :: l).Nodup :=
  List.nodup_cons.1 ((List.Perm.swap s a l).nodup_iff.2 h)

omit [DecidableEq α] in
theorem segment_append {L : Links α} {a b c : α} {l m : List α} :
    Segment L a (l ++ c :: m) b ↔ Segment L a l c ∧ Segment L c m b := by
  induction l generalizing a with
  | nil => rfl
  | cons d l ih => simp [Segment, ih, and_assoc]

omit [DecidableEq α] in
theorem Segment.next_first {L : Links α} {a b : α} {l : List α} (h : Segment L a l b) :
    L.next a = some (first b l) := by
  cases l with
  | nil => exact h.1
  | cons c l => exact h.1.1

omit [DecidableEq α] in
/-- What precedes the end of a segment lies on it. -/
theorem Segment.exists_prev {L : Links α} {a b : α} {l : List α} (h : Segment L a l b) :
    ∃ p ∈ a :: l, L.prev b = some p := by
  induction l generalizing a with
  | nil => exact ⟨a, by simp, h.2⟩
  | cons c l ih =>
      obtain ⟨p, hp, hprev⟩ := ih h.2
      exact ⟨p, List.mem_cons_of_mem a hp, hprev⟩

omit [DecidableEq α] in
/-- A segment only depends on the next links before its end and the previous links
behind its start. -/
theorem Segment.congr {L L' : Links α} {a b : α} {l : List α} (h : Segment L a l b)
    (hnext : ∀ c ∈ a :: l, L'.next c = L.next c) (hprev : ∀ c ∈ l ++ [b], L'.prev c = L.prev c) :
    Segment L' a l b := by
  induction l generalizing a with
  | nil =>
      refine ⟨?_, ?_⟩
      · rw [hnext a (by simp)]
        exact h.1
      · rw [hprev b (by simp)]
        exact h.2
  | cons c l ih =>
      refine ⟨⟨?_, ?_⟩, ih h.2 ?_ ?_⟩
      · rw [hnext a (by simp)]
        exact h.1.1
      · rw [hprev c (by simp)]
        exact h.1.2
      · exact fun d hd => hnext d (List.mem_cons_of_mem a hd)
      · exact fun d hd => hprev d (List.mem_cons_of_mem c hd)

/-! ## Rings -/

/-- The list with the sentinel `s` holds the cells of `l`, in order. -/
structure Ring (L : Links α) (s : α) (l : List α) : Prop where
  segment : Segment L s l s
  nodup : (s :: l).Nodup

omit [DecidableEq α] in
theorem Ring.ne_sentinel {L : Links α} {s a : α} {l : List α} (h : Ring L s l) (ha : a ∈ l) :
    a ≠ s :=
  ne_of_mem_of_not_mem ha (List.nodup_cons.1 h.nodup).1

omit [DecidableEq α] in
theorem Ring.next_sentinel {L : Links α} {s : α} {l : List α} (h : Ring L s l) :
    L.next s = some (first s l) :=
  h.segment.next_first

omit [DecidableEq α] in
/-- Every cell of a ring has a next cell. -/
theorem Ring.next_isSome {L : Links α} {s a : α} {l : List α} (h : Ring L s l) (ha : a ∈ l) :
    L.next a ≠ none := by
  obtain ⟨m, k, rfl⟩ := List.append_of_mem ha
  rw [(segment_append.1 h.segment).2.next_first]
  simp

theorem ring_initList (L : Links α) (s : α) : Ring (L.initList s) s [] := by
  refine ⟨⟨?_, ?_⟩, by simp⟩
  · simp [Links.initList, Links.setNext_next]
  · simp [Links.initList, Links.setPrev_prev]

omit [DecidableEq α] in
/-- A ring only depends on the links of its own cells. -/
theorem Ring.congr {L L' : Links α} {s : α} {l : List α} (h : Ring L s l)
    (heq : ∀ c ∈ s :: l, L'.next c = L.next c ∧ L'.prev c = L.prev c) : Ring L' s l := by
  refine ⟨h.segment.congr (fun c hc => (heq c hc).1) (fun c hc => (heq c ?_).2), h.nodup⟩
  simpa [or_comm] using hc

/-- The two sets of links agree on every cell outside `cells`. -/
def AgreeOff (cells : List α) (L L' : Links α) : Prop :=
  ∀ c, c ∉ cells → L'.next c = L.next c ∧ L'.prev c = L.prev c

omit [DecidableEq α] in
theorem AgreeOff.trans {cells : List α} {L L' L'' : Links α} (h : AgreeOff cells L L')
    (h' : AgreeOff cells L' L'') : AgreeOff cells L L'' := by
  intro c hc
  exact ⟨(h' c hc).1.trans (h c hc).1, (h' c hc).2.trans (h c hc).2⟩

omit [DecidableEq α] in
theorem AgreeOff.mono {cells cells' : List α} {L L' : Links α} (h : AgreeOff cells L L')
    (hsub : cells ⊆ cells') : AgreeOff cells' L L' :=
  fun c hc => h c fun hm => hc (hsub hm)

omit [DecidableEq α] in
/-- A change to other cells leaves a ring alone. -/
theorem Ring.frame {L L' : Links α} {s : α} {l cells : List α} (h : Ring L s l)
    (hoff : AgreeOff cells L L') (hdisj : (s :: l).Disjoint cells) : Ring L' s l :=
  h.congr fun c hc => hoff c (hdisj hc)

/-! ## Insertion -/

/-- The links after `a` has been inserted between `p` and `b`. -/
def between (L : Links α) (p a b : α) : Links α :=
  (((L.setNext a (some b)).setPrev a (some p)).setNext p (some a)).setPrev b (some a)

theorem insertBefore_eq {L : Links α} {a b p : α} (hp : L.prev b = some p) :
    insertBefore L a b = some (between L p a b) := by
  simp [insertBefore, between, hp, Links.setPrev_prev]

/-- The segment up to `b` becomes one up to `a`. -/
theorem segment_between {L : Links α} {x p a b : α} {m : List α} (h : Segment L x m b)
    (hp : L.prev b = some p) (hnd : (x :: m).Nodup) (hb : b ∉ m) (ha : a ∉ x :: m)
    (hab : a ≠ b) : Segment (between L p a b) x m a := by
  induction m generalizing x with
  | nil =>
      have hpx : x = p := Option.some.inj (h.2.symm.trans hp)
      subst hpx
      refine ⟨?_, ?_⟩
      · simp [between, Links.setNext_next]
      · simp [between, Links.setPrev_prev, hab]
  | cons c m ih =>
      obtain ⟨hxc, hcm⟩ := h
      obtain ⟨q, hq, hprev⟩ := hcm.exists_prev
      have hpq : p = q := Option.some.inj (hp.symm.trans hprev)
      have hxp : x ≠ p := by
        rintro rfl
        exact (List.nodup_cons.1 hnd).1 (hpq ▸ hq)
      have hxa : x ≠ a := fun hxa => ha (by simp [hxa])
      have hca : c ≠ a := fun hca => ha (by simp [hca])
      have hcb : c ≠ b := fun hcb => hb (by simp [hcb])
      refine ⟨⟨?_, ?_⟩, ?_⟩
      · simpa [between, Links.setNext_next, hxp, hxa] using hxc.1
      · simpa [between, Links.setPrev_prev, hca, hcb] using hxc.2
      · exact ih hcm (List.nodup_cons.1 hnd).2 (fun hm => hb (List.mem_cons_of_mem c hm))
          (fun hm => ha (List.mem_cons_of_mem x hm))

/-- **Insertion.**  Inserting `a` in front of the first cell of `k`, or of the sentinel when
`k` is empty, puts it between `m` and `k`, and touches no cell of another list. -/
theorem Ring.insert {L : Links α} {s a : α} {m k : List α} (h : Ring L s (m ++ k))
    (ha : a ∉ s :: (m ++ k)) :
    ∃ L', insertBefore L a (first s k) = some L' ∧ Ring L' s (m ++ a :: k) ∧
      AgreeOff (s :: (m ++ a :: k)) L L' := by
  have hnd : (s :: (m ++ a :: k)).Nodup :=
    ((List.perm_middle.cons s).trans (List.Perm.swap a s (m ++ k))).nodup_iff.2
      (List.nodup_cons.2 ⟨ha, h.nodup⟩)
  have hndk : (s :: k).Nodup := h.nodup.sublist ((List.sublist_append_right m k).cons_cons s)
  have happend : (s :: m ++ k).Nodup := h.nodup
  obtain ⟨hndm, -, hapart⟩ := List.nodup_append.1 happend
  have ham : a ∉ s :: m := fun hm => ha (List.mem_append_left k hm)
  have hak : a ∉ s :: k := by
    intro hk
    exact ha (List.cons_subset_cons s (List.subset_append_right m k) hk)
  have hhead : Segment L s m (first s k) ∧ ∀ c k', k = c :: k' → Segment L c k' s := by
    cases k with
    | nil => exact ⟨by simpa using h.segment, by simp⟩
    | cons c k =>
        obtain ⟨hm, hk⟩ := segment_append.1 h.segment
        refine ⟨hm, ?_⟩
        rintro c' k' hck
        cases hck
        exact hk
  obtain ⟨hm, hk⟩ := hhead
  obtain ⟨p, hpm, hp⟩ := hm.exists_prev
  have hbm : first s k ∉ m := by
    intro hb
    rcases List.mem_cons.1 (first_mem s k) with hbs | hbk
    · exact (List.nodup_cons.1 hndm).1 (hbs ▸ hb)
    · exact hapart _ (List.mem_cons_of_mem s hb) _ hbk rfl
  have hab : a ≠ first s k := ne_first hak
  have hpa : p ≠ a := ne_of_mem_of_not_mem hpm ham
  have hlink : Linked (between L p a (first s k)) a (first s k) := by
    refine ⟨?_, ?_⟩
    · simp [between, Links.setNext_next, hpa.symm]
    · simp [between, Links.setPrev_prev]
  refine ⟨_, insertBefore_eq hp, ⟨?_, hnd⟩, ?_⟩
  · refine segment_append.2 ⟨segment_between hm hp hndm hbm ham hab, ?_⟩
    cases k with
    | nil => exact hlink
    | cons c k =>
        refine ⟨hlink, (hk c k rfl).congr ?_ ?_⟩
        · intro d hd
          have hdp : d ≠ p := (hapart p hpm d hd).symm
          have hda : d ≠ a := ne_of_mem_of_not_mem (List.mem_cons_of_mem s hd) hak
          simp [between, Links.setNext_next, hdp, hda]
        · intro d hd
          have hdsk : d ∈ s :: k := by simpa [or_comm] using hd
          have hdc : d ≠ c := ne_of_mem_of_not_mem hdsk (nodup_cons_cons hndk).1
          have hda : d ≠ a := by
            refine ne_of_mem_of_not_mem hdsk fun hm => hak ?_
            exact List.cons_subset_cons s (List.subset_cons_self c k) hm
          simp [between, Links.setPrev_prev, hdc, hda]
  · intro d hd
    have hda : d ≠ a := fun hda => hd (by simp [hda])
    have hdp : d ≠ p := by
      rintro rfl
      exact hd (List.mem_append_left (a :: k) hpm)
    have hdb : d ≠ first s k := by
      refine ne_first fun hk => hd ?_
      refine List.cons_subset_cons s (fun c hc => ?_) hk
      exact List.mem_append_right m (List.mem_cons_of_mem a hc)
    simp [between, Links.setNext_next, Links.setPrev_prev, hda, hdp, hdb]

/-! ## Removal of the first cell -/

/-- **Removal.**  Removing the first cell leaves the others, clears its links, and touches
no cell of another list. -/
theorem Ring.removeFirst {L : Links α} {s a : α} {l : List α} (h : Ring L s (a :: l)) :
    ∃ L', remove L a = some L' ∧ Ring L' s l ∧ L'.next a = none ∧
      AgreeOff (s :: a :: l) L L' := by
  obtain ⟨hal, hsl⟩ := nodup_cons_cons h.nodup
  obtain ⟨⟨hsa, has⟩, hl⟩ := h.segment
  have hna : first s l ≠ a := (ne_first hal).symm
  have hsne : s ≠ a := (List.ne_of_not_mem_cons hal).symm
  have hremove : remove L a = some
      ((((L.setPrev (first s l) (some s)).setNext s (some (first s l))).setNext a none).setPrev
        a none) := by
    simp [remove, hl.next_first, has, Links.setPrev_prev]
  refine ⟨_, hremove, ⟨?_, hsl⟩, ?_, ?_⟩
  · cases l with
    | nil =>
        refine ⟨?_, ?_⟩
        · simp [Links.setNext_next, hsne]
        · simp [Links.setPrev_prev, hsne]
    | cons c l =>
        have hca : c ≠ a := hna
        refine ⟨⟨?_, ?_⟩, hl.2.congr ?_ ?_⟩
        · simp [Links.setNext_next, hsne]
        · simp [Links.setPrev_prev, hca]
        · intro d hd
          have hds : d ≠ s := ne_of_mem_of_not_mem hd (List.nodup_cons.1 hsl).1
          have hda : d ≠ a := ne_of_mem_of_not_mem (List.mem_cons_of_mem s hd) hal
          simp [Links.setNext_next, hds, hda]
        · intro d hd
          have hdsl : d ∈ s :: l := by simpa [or_comm] using hd
          have hdc : d ≠ c := ne_of_mem_of_not_mem hdsl (nodup_cons_cons hsl).1
          have hda : d ≠ a := by
            refine ne_of_mem_of_not_mem hdsl fun hm => hal ?_
            exact List.cons_subset_cons s (List.subset_cons_self c l) hm
          simp [Links.setPrev_prev, hdc, hda]
  · simp [Links.setNext_next]
  · intro d hd
    have hds : d ≠ s := fun hds => hd (by simp [hds])
    have hda : d ≠ a := fun hda => hd (by simp [hda])
    have hdf : d ≠ first s l := by
      refine ne_first fun hm => hd ?_
      exact List.cons_subset_cons s (List.subset_cons_self a l) hm
    simp [Links.setNext_next, Links.setPrev_prev, hds, hda, hdf]

/-! ## Walking along a ring -/

omit [DecidableEq α] in
/-- With a budget of one step for each cell and one more, the walk that stops at the
sentinel at the latest stops at the first cell that fails the test. -/
theorem scan_segment {L : Links α} (go : α → Bool) {s : α} (hs : go s = false) {l : List α}
    {a : α} (h : Segment L a l s) {n : ℕ} (hn : l.length < n) :
    scan L go n (first s l) = some (first s (l.dropWhile go)) := by
  induction l generalizing a n with
  | nil =>
      cases n with
      | zero => simp at hn
      | succ n => simp [scan, hs]
  | cons c l ih =>
      cases n with
      | zero => simp at hn
      | succ n =>
          cases hc : go c with
          | false => simp [scan, hc]
          | true =>
              have hrest := ih h.2 (n := n) (by simpa using hn)
              simp [scan, hc, h.2.next_first, hrest]

/-- The cells met on a walk around the ring with the sentinel `s`, from the link `p`. -/
def walk (L : Links α) (s : α) : ℕ → Option α → List α
  | n + 1, some a => if a = s then [] else a :: walk L s n (L.next a)
  | _, _ => []

/-- The cells of the list with the sentinel `s`, with a budget of `n` cells. -/
def toList (L : Links α) (s : α) (n : ℕ) : List α := walk L s (n + 1) (L.next s)

theorem walk_segment {L : Links α} {s a : α} {l : List α} (h : Segment L a l s) (hs : s ∉ l)
    {n : ℕ} (hn : l.length < n) : walk L s n (L.next a) = l := by
  induction l generalizing a n with
  | nil =>
      cases n with
      | zero => simp at hn
      | succ n => simp [h.next_first, walk]
  | cons c l ih =>
      cases n with
      | zero => simp at hn
      | succ n =>
          have hcs : c ≠ s := fun hcs => hs (by simp [hcs])
          have hrest := ih h.2 (fun hm => hs (List.mem_cons_of_mem c hm)) (n := n)
            (by simpa using hn)
          simp [h.next_first, walk, hcs, hrest]

/-- A walk around a ring meets its cells. -/
theorem Ring.toList_eq {L : Links α} {s : α} {l : List α} (h : Ring L s l) {n : ℕ}
    (hn : l.length ≤ n) : toList L s n = l :=
  walk_segment h.segment (List.nodup_cons.1 h.nodup).1 (Nat.lt_succ_of_le hn)

end LinkedRing
