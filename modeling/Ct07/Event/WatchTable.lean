/-
# The watch table of the event loop (`ril_event.cpp`)

The descriptors that the event loop waits for are kept four times: as the events in
`watch_table`, as the index in each event, as the set for `select`, and as its bound `nfds`.

* `State`, `step` : the table and the operations on it;
* `State.Inv` : the four agree;
* `processReadReadies_spec` : the scan after `select`, which takes events out as it goes on;
* `watchTable_consistent` : the table in every run, and what one result of `select` queues.

The operations hold `listMutex`, so each is one step.
-/
import Ct07.Lib.Run
import Mathlib.Data.Finset.Card
import Mathlib.Data.Int.Notation
import Mathlib.Data.List.FinRange
import Mathlib.Data.List.Nodup
import Mathlib.Logic.Function.Basic

open PartialStep

namespace WatchTable

/-! ## State -/

/-- `MAX_FD_EVENTS` -/
def maxFdEvents : ℕ := 8

/-- `struct ril_event`, as far as the table goes. -/
structure RilEvent where
  fd : ℕ
  index : ℤ
  persist : Bool
  deriving DecidableEq

/-- The events are named by their addresses. -/
structure State where
  events : ℕ → RilEvent
  watchTable : Fin maxFdEvents → Option ℕ
  readFds : Finset ℕ
  nfds : ℕ

/-- `ril_event_init`, and the events as `ril_event_set` sets them up. -/
def State.init (fd : ℕ → ℕ) (persist : ℕ → Bool) : State where
  events := fun a => ⟨fd a, -1, persist a⟩
  watchTable := fun _ => none
  readFds := ∅
  nfds := 0

/-- The descriptor of an event. -/
def State.fd (s : State) (a : ℕ) : ℕ := (s.events a).fd

/-! ## Operations -/

/-- The largest descriptor in the table, zero if there is none. -/
def largestFd (s : State) : ℕ :=
  (List.finRange maxFdEvents).foldl (fun n i =>
    match s.watchTable i with
    | some rev => if s.fd rev > n then s.fd rev else n
    | none => n) 0

def removeWatch (s : State) (ev : ℕ) (index : Fin maxFdEvents) : State :=
  let s := { s with
    watchTable := Function.update s.watchTable index none
    events := Function.update s.events ev { s.events ev with index := -1 }
    readFds := s.readFds.erase (s.fd ev) }
  if s.fd ev + 1 = s.nfds then { s with nfds := largestFd s + 1 } else s

/-- `ril_event_set` -/
def rilEventSet (s : State) (ev fd : ℕ) (persist : Bool) : State :=
  { s with events := Function.update s.events ev ⟨fd, -1, persist⟩ }

/-- `ril_event_add`.  When the table is full nothing is added. -/
def rilEventAdd (s : State) (ev : ℕ) : State :=
  match (List.finRange maxFdEvents).find? fun i => s.watchTable i = none with
  | some i => { s with
      watchTable := Function.update s.watchTable i (some ev)
      events := Function.update s.events ev { s.events ev with index := (i : ℕ) }
      readFds := insert (s.fd ev) s.readFds
      nfds := if s.fd ev ≥ s.nfds then s.fd ev + 1 else s.nfds }
  | none => s

/-- `ril_event_del` -/
def rilEventDel (s : State) (ev : ℕ) : State :=
  if h : 0 ≤ (s.events ev).index ∧ (s.events ev).index < maxFdEvents then
    removeWatch s ev ⟨(s.events ev).index.toNat, by omega⟩
  else s

/-- The loop of `processReadReadies` over the slots that are left, with `n` descriptors to go: the
state, and the events that are added to the pending list. -/
def scanReadies (rfds : Finset ℕ) : List (Fin maxFdEvents) → ℕ → State → State × List ℕ
  | [], _, s => (s, [])
  | i :: is, n, s =>
    if n = 0 then (s, [])
    else match s.watchTable i with
      | some rev =>
        if s.fd rev ∈ rfds then
          let s := if (s.events rev).persist then s else removeWatch s rev i
          let rest := scanReadies rfds is (n - 1) s
          (rest.1, rev :: rest.2)
        else scanReadies rfds is n s
      | none => scanReadies rfds is n s

def processReadReadies (s : State) (rfds : Finset ℕ) (n : ℕ) : State × List ℕ :=
  scanReadies rfds (List.finRange maxFdEvents) n s

/-! ## Steps -/

/-- An event is in the table. -/
def State.Watched (s : State) (a : ℕ) : Prop := ∃ i, s.watchTable i = some a

instance (s : State) (a : ℕ) : Decidable (s.Watched a) :=
  inferInstanceAs (Decidable (∃ i, s.watchTable i = some a))

inductive Event where
  | set (ev fd : ℕ) (persist : Bool)
  | add (ev : ℕ)
  | del (ev : ℕ)
  /-- `select` has returned with the descriptors that are ready, and their number -/
  | processReadReadies (rfds : Finset ℕ)

/-- Some event in the table has the descriptor. -/
def State.WatchesFd (s : State) (fd : ℕ) : Prop := ∃ i, ∃ a ∈ s.watchTable i, s.fd a = fd

instance (s : State) (fd : ℕ) : Decidable (s.WatchesFd fd) :=
  inferInstanceAs (Decidable (∃ i, ∃ a ∈ s.watchTable i, s.fd a = fd))

/-- An event in the table is not set up again, and a descriptor is not added twice. -/
def step (s : State) : Event → Option State
  | .set ev fd persist => if s.Watched ev then none else some (rilEventSet s ev fd persist)
  | .add ev => if s.WatchesFd (s.fd ev) then none else some (rilEventAdd s ev)
  | .del ev => some (rilEventDel s ev)
  | .processReadReadies rfds => some (processReadReadies s rfds rfds.card).1

/-- The table, the indices, the set and its bound agree. -/
structure State.Consistent (s : State) : Prop where
  readFds : ∀ fd, fd ∈ s.readFds ↔ s.WatchesFd fd
  stored : ∀ i a, s.watchTable i = some a → (s.events a).index = (i : ℕ)
  unstored : ∀ a, ¬ s.Watched a → (s.events a).index = -1
  nfds : ∀ i a, s.watchTable i = some a → s.fd a < s.nfds

/-- One result of `select` queues each watched event that is ready once, and no other. -/
def State.QueuesReady (s : State) : Prop :=
  ∀ rfds : Finset ℕ, (processReadReadies s rfds rfds.card).2.Nodup ∧
    ∀ a, a ∈ (processReadReadies s rfds rfds.card).2 ↔ s.Watched a ∧ s.fd a ∈ rfds

/-- The invariant: no descriptor is in the table twice. -/
structure State.Inv (s : State) : Prop extends s.Consistent where
  distinct : ∀ i j a b, s.watchTable i = some a → s.watchTable j = some b → s.fd a = s.fd b → i = j

/-! ## Taking an event out -/

section RemoveWatch

variable (s : State) (ev : ℕ) (i : Fin maxFdEvents)

theorem removeWatch_watchTable :
    (removeWatch s ev i).watchTable = Function.update s.watchTable i none := by
  unfold removeWatch
  dsimp only
  split <;> rfl

theorem removeWatch_events :
    (removeWatch s ev i).events =
      Function.update s.events ev { s.events ev with index := -1 } := by
  unfold removeWatch
  dsimp only
  split <;> rfl

theorem removeWatch_readFds : (removeWatch s ev i).readFds = s.readFds.erase (s.fd ev) := by
  unfold removeWatch
  dsimp only
  split <;> rfl

theorem removeWatch_fd (a : ℕ) : (removeWatch s ev i).fd a = s.fd a := by
  rw [State.fd, removeWatch_events]
  by_cases h : a = ev
  · rw [h, Function.update_self, State.fd]
  · rw [Function.update_of_ne h, State.fd]

/-- The scan for the largest descriptor finds each of them. -/
theorem foldl_largest (is : List (Fin maxFdEvents)) (n : ℕ) :
    let largest := is.foldl (fun n i =>
      match s.watchTable i with
      | some rev => if s.fd rev > n then s.fd rev else n
      | none => n) n
    n ≤ largest ∧ ∀ j ∈ is, ∀ a, s.watchTable j = some a → s.fd a ≤ largest := by
  induction is generalizing n with
  | nil => exact ⟨le_refl n, fun j hj => absurd hj List.not_mem_nil⟩
  | cons j is ih =>
      rw [List.foldl_cons]
      cases hj : s.watchTable j with
      | none =>
          refine ⟨(ih n).1, fun k hk a ha => ?_⟩
          rcases List.mem_cons.1 hk with rfl | hk
          · exact nomatch hj.symm.trans ha
          · exact (ih n).2 k hk a ha
      | some rev =>
          dsimp only
          split
          · obtain ⟨hle, hall⟩ := ih (s.fd rev)
            refine ⟨by omega, fun k hk a ha => ?_⟩
            rcases List.mem_cons.1 hk with rfl | hk
            · cases hj.symm.trans ha
              exact hle
            · exact hall k hk a ha
          · obtain ⟨hle, hall⟩ := ih n
            refine ⟨hle, fun k hk a ha => ?_⟩
            rcases List.mem_cons.1 hk with rfl | hk
            · cases hj.symm.trans ha
              omega
            · exact hall k hk a ha

theorem le_largestFd {j : Fin maxFdEvents} {a : ℕ} (h : s.watchTable j = some a) :
    s.fd a ≤ largestFd s :=
  (foldl_largest s (List.finRange maxFdEvents) 0).2 j (List.mem_finRange j) a h

variable {s ev i}

/-- What is left in the table. -/
theorem removeWatch_eq_some_iff {j : Fin maxFdEvents} {a : ℕ} :
    (removeWatch s ev i).watchTable j = some a ↔ j ≠ i ∧ s.watchTable j = some a := by
  rw [removeWatch_watchTable]
  by_cases h : j = i
  · rw [h, Function.update_self]
    simp
  · rw [Function.update_of_ne h]
    simp [h]

theorem removeWatch_nfds (h : s.Consistent) {j : Fin maxFdEvents} {a : ℕ}
    (ha : (removeWatch s ev i).watchTable j = some a) :
    (removeWatch s ev i).fd a < (removeWatch s ev i).nfds := by
  rw [removeWatch_fd]
  have hold := h.nfds j a (removeWatch_eq_some_iff.1 ha).2
  have hlargest : ∀ t : State, t.watchTable = Function.update s.watchTable i none →
      t.fd a = s.fd a → s.fd a < largestFd t + 1 := by
    intro t htable hfd
    rw [← hfd]
    rw [removeWatch_watchTable, ← htable] at ha
    exact Nat.lt_succ_of_le (le_largestFd t ha)
  have hfd := removeWatch_fd s ev i a
  unfold removeWatch at hfd ⊢
  dsimp only at hfd ⊢
  split
  · rename_i hmax
    rw [if_pos hmax] at hfd
    exact hlargest _ rfl hfd
  · exact hold

/-- **An event is taken out.** -/
theorem removeWatch_inv (h : s.Inv) (hi : s.watchTable i = some ev) : (removeWatch s ev i).Inv := by
  have hother : ∀ {j a}, j ≠ i → s.watchTable j = some a → a ≠ ev := by
    rintro j a hj ha rfl
    exact hj (h.distinct j i a a ha hi rfl)
  refine ⟨⟨fun fd => ?_, fun j a ha => ?_, fun a ha => ?_, fun j a ha => ?_⟩, ?_⟩
  · rw [removeWatch_readFds, Finset.mem_erase, h.readFds]
    constructor
    · rintro ⟨hne, j, a, ha, hfd⟩
      refine ⟨j, a, removeWatch_eq_some_iff.2 ⟨?_, ha⟩, (removeWatch_fd s ev i a).trans hfd⟩
      rintro rfl
      cases hi.symm.trans ha
      exact hne hfd.symm
    · rintro ⟨j, a, ha, hfd⟩
      obtain ⟨hj, ha⟩ := removeWatch_eq_some_iff.1 ha
      rw [removeWatch_fd] at hfd
      refine ⟨?_, j, a, ha, hfd⟩
      rintro rfl
      exact hj (h.distinct j i a ev ha hi hfd)
  · obtain ⟨hj, ha⟩ := removeWatch_eq_some_iff.1 ha
    rw [removeWatch_events, Function.update_of_ne (hother hj ha)]
    exact h.stored j a ha
  · rw [removeWatch_events]
    by_cases hev : a = ev
    · rw [hev, Function.update_self]
    · rw [Function.update_of_ne hev]
      apply h.unstored
      rintro ⟨j, hj⟩
      refine ha ⟨j, removeWatch_eq_some_iff.2 ⟨?_, hj⟩⟩
      rintro rfl
      cases hi.symm.trans hj
      exact hev rfl
  · exact removeWatch_nfds h.toConsistent ha
  · intro j k a b ha hb hfd
    rw [removeWatch_fd, removeWatch_fd] at hfd
    exact h.distinct j k a b (removeWatch_eq_some_iff.1 ha).2 (removeWatch_eq_some_iff.1 hb).2 hfd

end RemoveWatch

/-! ## Storing an event -/

/-- An event in a free slot. -/
def store (s : State) (ev : ℕ) (i : Fin maxFdEvents) : State :=
  { s with
    watchTable := Function.update s.watchTable i (some ev)
    events := Function.update s.events ev { s.events ev with index := (i : ℕ) }
    readFds := insert (s.fd ev) s.readFds
    nfds := if s.fd ev ≥ s.nfds then s.fd ev + 1 else s.nfds }

theorem rilEventAdd_eq (s : State) (ev : ℕ) :
    rilEventAdd s ev =
      match (List.finRange maxFdEvents).find? fun i => s.watchTable i = none with
      | some i => store s ev i
      | none => s := rfl

section Store

variable {s : State} {ev : ℕ} {i : Fin maxFdEvents}

theorem store_fd (a : ℕ) : (store s ev i).fd a = s.fd a := by
  show (Function.update s.events ev _ a).fd = _
  by_cases h : a = ev
  · rw [h, Function.update_self, State.fd]
  · rw [Function.update_of_ne h, State.fd]

/-- What is in the table then. -/
theorem store_eq_some_iff {j : Fin maxFdEvents} {a : ℕ} :
    (store s ev i).watchTable j = some a ↔
      (j = i ∧ a = ev) ∨ (j ≠ i ∧ s.watchTable j = some a) := by
  show Function.update s.watchTable i (some ev) j = some a ↔ _
  by_cases h : j = i
  · simp [h, eq_comm]
  · simp [h]

theorem store_watchesFd (hfree : s.watchTable i = none) (fd : ℕ) :
    (store s ev i).WatchesFd fd ↔ fd = s.fd ev ∨ s.WatchesFd fd := by
  constructor
  · rintro ⟨j, a, ha, had⟩
    rw [store_fd] at had
    rcases store_eq_some_iff.1 ha with ⟨-, rfl⟩ | ⟨-, ha⟩
    · exact .inl had.symm
    · exact .inr ⟨j, a, ha, had⟩
  · rintro (rfl | ⟨j, a, ha, had⟩)
    · exact ⟨i, ev, store_eq_some_iff.2 (.inl ⟨rfl, rfl⟩), store_fd ev⟩
    · refine ⟨j, a, store_eq_some_iff.2 (.inr ⟨?_, ha⟩), (store_fd a).trans had⟩
      rintro rfl
      exact nomatch hfree.symm.trans ha

/-- No other event has the descriptor. -/
theorem store_distinct (h : s.Inv) (hev : ¬ s.WatchesFd (s.fd ev)) (j k : Fin maxFdEvents)
    (a b : ℕ) (ha : (store s ev i).watchTable j = some a)
    (hb : (store s ev i).watchTable k = some b)
    (heq : (store s ev i).fd a = (store s ev i).fd b) : j = k := by
  rw [store_fd, store_fd] at heq
  rcases store_eq_some_iff.1 ha with ⟨rfl, rfl⟩ | ⟨-, hja⟩
  · rcases store_eq_some_iff.1 hb with ⟨rfl, -⟩ | ⟨-, hkb⟩
    · rfl
    · exact absurd ⟨k, b, hkb, heq.symm⟩ hev
  · rcases store_eq_some_iff.1 hb with ⟨rfl, rfl⟩ | ⟨-, hkb⟩
    · exact absurd ⟨j, a, hja, heq⟩ hev
    · exact h.distinct j k a b hja hkb heq

/-- **An event with a new descriptor is stored** in a free slot. -/
theorem store_inv (h : s.Inv) (hfree : s.watchTable i = none)
    (hev : ¬ s.WatchesFd (s.fd ev)) : (store s ev i).Inv := by
  refine ⟨⟨fun fd => ?_, fun j a ha => ?_, fun a ha => ?_, fun j a ha => ?_⟩,
    store_distinct h hev⟩
  · show fd ∈ insert (s.fd ev) s.readFds ↔ _
    rw [Finset.mem_insert, h.readFds, store_watchesFd hfree]
  · show (Function.update s.events ev _ a).index = _
    rcases store_eq_some_iff.1 ha with ⟨rfl, rfl⟩ | ⟨-, hold⟩
    · rw [Function.update_self]
    · have hne : a ≠ ev := by
        rintro rfl
        exact hev ⟨j, a, hold, rfl⟩
      rw [Function.update_of_ne hne]
      exact h.stored j a hold
  · have hne : a ≠ ev := by
      rintro rfl
      exact ha ⟨i, store_eq_some_iff.2 (.inl ⟨rfl, rfl⟩)⟩
    show (Function.update s.events ev _ a).index = _
    rw [Function.update_of_ne hne]
    apply h.unstored
    rintro ⟨j, hj⟩
    refine ha ⟨j, store_eq_some_iff.2 (.inr ⟨?_, hj⟩)⟩
    rintro rfl
    exact nomatch hfree.symm.trans hj
  · show _ < if s.fd ev ≥ s.nfds then s.fd ev + 1 else s.nfds
    rw [store_fd]
    rcases store_eq_some_iff.1 ha with ⟨-, rfl⟩ | ⟨-, ha⟩
    · split <;> omega
    · have := h.nfds j a ha
      split <;> omega

end Store

/-! ## The other operations -/

section Operations

variable {s : State}

theorem init_inv (fd : ℕ → ℕ) (persist : ℕ → Bool) : (State.init fd persist).Inv where
  readFds := fun d => by
    constructor
    · exact fun h => absurd h (Finset.notMem_empty d)
    · rintro ⟨i, a, ha, -⟩
      exact nomatch ha
  stored := fun i a ha => nomatch ha
  unstored := fun a _ => rfl
  nfds := fun i a ha => nomatch ha
  distinct := fun i j a b ha => nomatch ha

/-- An event that is not in the table is set up. -/
theorem rilEventSet_inv (h : s.Inv) {ev : ℕ} (hev : ¬ s.Watched ev) (fd : ℕ) (persist : Bool) :
    (rilEventSet s ev fd persist).Inv := by
  have hne : ∀ {i a}, s.watchTable i = some a → a ≠ ev := by
    rintro i a ha rfl
    exact hev ⟨i, ha⟩
  have hfd : ∀ {i a}, s.watchTable i = some a → (rilEventSet s ev fd persist).fd a = s.fd a := by
    intro i a ha
    show (Function.update s.events ev _ a).fd = _
    rw [Function.update_of_ne (hne ha), State.fd]
  refine ⟨⟨fun d => ?_, fun i a ha => ?_, fun a ha => ?_, fun i a ha => ?_⟩, ?_⟩
  · show d ∈ s.readFds ↔ _
    rw [h.readFds]
    constructor
    · rintro ⟨i, a, ha, had⟩
      exact ⟨i, a, ha, (hfd ha).trans had⟩
    · rintro ⟨i, a, ha, had⟩
      exact ⟨i, a, ha, (hfd ha).symm.trans had⟩
  · show (Function.update s.events ev _ a).index = _
    rw [Function.update_of_ne (hne ha)]
    exact h.stored i a ha
  · show (Function.update s.events ev _ a).index = _
    by_cases heq : a = ev
    · rw [heq, Function.update_self]
    · rw [Function.update_of_ne heq]
      exact h.unstored a ha
  · rw [hfd ha]
    exact h.nfds i a ha
  · intro i j a b ha hb heq
    rw [hfd ha, hfd hb] at heq
    exact h.distinct i j a b ha hb heq

/-- An event with a new descriptor is added. -/
theorem rilEventAdd_inv (h : s.Inv) {ev : ℕ} (hev : ¬ s.WatchesFd (s.fd ev)) :
    (rilEventAdd s ev).Inv := by
  rw [rilEventAdd_eq]
  split
  · rename_i i hfind
    have hfree : s.watchTable i = none := by simpa using List.find?_some hfind
    exact store_inv h hfree hev
  · exact h

theorem rilEventDel_inv (h : s.Inv) (ev : ℕ) : (rilEventDel s ev).Inv := by
  unfold rilEventDel
  split
  · rename_i hindex
    apply removeWatch_inv h
    by_cases hev : s.Watched ev
    · obtain ⟨i, hi⟩ := hev
      have hstored := h.stored i ev hi
      have heq : (⟨(s.events ev).index.toNat, by omega⟩ : Fin maxFdEvents) = i := by
        apply Fin.ext
        simp only [hstored, Int.toNat_natCast]
      rw [heq, hi]
    · have := h.unstored ev hev
      omega
  · exact h

end Operations

/-! ## One result of `select` -/

section Readies

variable {s : State} (rfds : Finset ℕ)

/-- The events in the slots that are ready. -/
def readies (s : State) (is : List (Fin maxFdEvents)) : List ℕ :=
  is.filterMap fun i => (s.watchTable i).filter fun a => s.fd a ∈ rfds

theorem mem_readies {is : List (Fin maxFdEvents)} {a : ℕ} :
    a ∈ readies rfds s is ↔ ∃ i ∈ is, s.watchTable i = some a ∧ s.fd a ∈ rfds := by
  simp [readies, List.mem_filterMap, Option.filter_eq_some_iff]

theorem readies_ready {i : Fin maxFdEvents} {a : ℕ} (hi : s.watchTable i = some a)
    (ha : s.fd a ∈ rfds) (is : List (Fin maxFdEvents)) :
    readies rfds s (i :: is) = a :: readies rfds s is := by
  have hkept : (some a).filter (fun a => s.fd a ∈ rfds) = some a := by simp [ha]
  rw [readies, List.filterMap_cons, hi, hkept]
  rfl

theorem readies_unready {i : Fin maxFdEvents} (h : ∀ a ∈ s.watchTable i, s.fd a ∉ rfds)
    (is : List (Fin maxFdEvents)) : readies rfds s (i :: is) = readies rfds s is := by
  rw [readies, List.filterMap_cons]
  cases hi : s.watchTable i with
  | none => rfl
  | some a =>
      have hgone : (some a).filter (fun a => s.fd a ∈ rfds) = none := by simp [h a hi]
      rw [hgone]
      rfl

/-- Taking an event out does not change the other slots. -/
theorem readies_removeWatch {ev : ℕ} {i : Fin maxFdEvents} {is : List (Fin maxFdEvents)}
    (hi : i ∉ is) : readies rfds (removeWatch s ev i) is = readies rfds s is := by
  apply List.filterMap_congr
  intro j hj
  have hne : j ≠ i := by
    rintro rfl
    exact hi hj
  rw [removeWatch_watchTable, Function.update_of_ne hne]
  simp only [removeWatch_fd]

/-- The descriptors of the events that are ready are different, and among those of `select`. -/
theorem readies_fds (h : s.Inv) {is : List (Fin maxFdEvents)} (his : is.Nodup) :
    ((readies rfds s is).map s.fd).Nodup := by
  induction is with
  | nil => exact List.nodup_nil
  | cons i is ih =>
      obtain ⟨hi, his⟩ := List.nodup_cons.1 his
      by_cases hready : ∃ a ∈ s.watchTable i, s.fd a ∈ rfds
      · obtain ⟨a, ha, hfd⟩ := hready
        rw [readies_ready rfds ha hfd, List.map_cons, List.nodup_cons]
        refine ⟨fun hmem => ?_, ih his⟩
        obtain ⟨b, hb, heq⟩ := List.mem_map.1 hmem
        obtain ⟨j, hj, hjb, -⟩ := (mem_readies rfds).1 hb
        exact hi (h.distinct j i b a hjb ha heq ▸ hj)
      · rw [readies_unready rfds fun a ha hfd => hready ⟨a, ha, hfd⟩]
        exact ih his

theorem length_readies_le (h : s.Inv) {is : List (Fin maxFdEvents)} (his : is.Nodup) :
    (readies rfds s is).length ≤ rfds.card := by
  have hsubset : ((readies rfds s is).map s.fd).toFinset ⊆ rfds := by
    intro fd hfd
    obtain ⟨a, ha, rfl⟩ := List.mem_map.1 (List.mem_toFinset.1 hfd)
    obtain ⟨i, -, -, hready⟩ := (mem_readies rfds).1 ha
    exact hready
  have hcard := Finset.card_le_card hsubset
  rw [List.toFinset_card_of_nodup (readies_fds rfds h his), List.length_map] at hcard
  exact hcard

/-- **The scan** queues the events that are ready, if the number of `select` is large enough. -/
theorem scanReadies_spec {is : List (Fin maxFdEvents)} (his : is.Nodup) {n : ℕ} (h : s.Inv)
    (hn : (readies rfds s is).length ≤ n) :
    (scanReadies rfds is n s).1.Inv ∧ (scanReadies rfds is n s).2 = readies rfds s is := by
  induction is generalizing n s with
  | nil => exact ⟨h, rfl⟩
  | cons i is ih =>
      obtain ⟨hi, his⟩ := List.nodup_cons.1 his
      rw [scanReadies]
      by_cases hzero : n = 0
      · have hnil : readies rfds s (i :: is) = [] := List.eq_nil_of_length_eq_zero (by omega)
        rw [if_pos hzero, hnil]
        exact ⟨h, rfl⟩
      · rw [if_neg hzero]
        cases hev : s.watchTable i with
        | none =>
            rw [readies_unready rfds (by simp [hev])] at hn ⊢
            exact ih his h hn
        | some rev =>
            dsimp only
            by_cases hready : s.fd rev ∈ rfds
            · rw [readies_ready rfds hev hready, List.length_cons] at hn
              rw [readies_ready rfds hev hready, if_pos hready]
              split
              · obtain ⟨hinv, hqueued⟩ := ih his h (n := n - 1) (by omega)
                exact ⟨hinv, by rw [hqueued]⟩
              · have hrest : readies rfds (removeWatch s rev i) is = readies rfds s is :=
                  readies_removeWatch rfds hi
                obtain ⟨hinv, hqueued⟩ := ih his (removeWatch_inv h hev) (n := n - 1)
                  (by rw [hrest]; omega)
                exact ⟨hinv, by rw [hqueued, hrest]⟩
            · rw [readies_unready rfds (by simp [hev, hready])] at hn ⊢
              rw [if_neg hready]
              exact ih his h hn

/-- What one result of `select` does. -/
theorem processReadReadies_spec (h : s.Inv) :
    (processReadReadies s rfds rfds.card).1.Inv ∧
      (processReadReadies s rfds rfds.card).2 = readies rfds s (List.finRange maxFdEvents) :=
  scanReadies_spec rfds (List.nodup_finRange _) h
    (length_readies_le rfds h (List.nodup_finRange _))

theorem queuesReady (h : s.Inv) : s.QueuesReady := by
  intro rfds
  rw [(processReadReadies_spec rfds h).2]
  refine ⟨(readies_fds rfds h (List.nodup_finRange _)).of_map _, fun a => ?_⟩
  rw [mem_readies]
  constructor
  · rintro ⟨i, -, ha, hready⟩
    exact ⟨⟨i, ha⟩, hready⟩
  · rintro ⟨⟨i, ha⟩, hready⟩
    exact ⟨i, List.mem_finRange i, ha, hready⟩

end Readies

/-! ## Main result -/

theorem step_inv {s s' : State} {e : Event} (h : s.Inv) (hs : step s e = some s') : s'.Inv := by
  cases e with
  | set ev fd persist =>
      rw [step] at hs
      split at hs
      · exact nomatch hs
      · rename_i hev
        cases hs
        exact rilEventSet_inv h hev fd persist
  | add ev =>
      rw [step] at hs
      split at hs
      · exact nomatch hs
      · rename_i hev
        cases hs
        exact rilEventAdd_inv h hev
  | del ev =>
      cases hs
      exact rilEventDel_inv h ev
  | processReadReadies rfds =>
      cases hs
      exact (processReadReadies_spec rfds h).1

/-- **The table is consistent in every run**, and every result of `select` queues the watched
events that are ready. -/
theorem watchTable_consistent (fd : ℕ → ℕ) (persist : ℕ → Bool) (es : List Event) :
    Always step (fun s => s.Consistent ∧ s.QueuesReady) (State.init fd persist) es := by
  have hinv : Always step State.Inv (State.init fd persist) es :=
    always_of_step (fun _ _ _ => step_inv) (init_inv fd persist) es
  exact hinv.mono fun s h => ⟨h.toConsistent, queuesReady h⟩

end WatchTable
