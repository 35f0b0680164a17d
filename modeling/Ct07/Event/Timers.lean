/-
# The timer service of the event loop

Timers are events on an intrusive circular list that `ril_timer_add` keeps sorted by
deadline.  The event loop moves the timers whose deadline has passed to a pending list
(`processTimeouts`) and then runs the callbacks of that list (`firePending`), which may
add timers themselves.

* `State`, `step` : the links, the deadlines and the event loop, one event at a time;
* `Line`, `Line.Step` : the same timers as three lists without links;
* `step_line` : what the code does to the links is what `Line.Step` does to the lists;
* `timers_accounted` : every timer is on one of the lists or has fired, once, not early,
  and in the order of the deadlines.
-/
import Ct07.Lib.Ring
import Ct07.Lib.Run
import Mathlib.Data.List.Sort
import Mathlib.Data.List.Range
import Mathlib.Data.List.TakeWhile
import Mathlib.Order.Basic

open PartialStep LinkedRing

namespace RilEvent

/-! ## Times -/

/-- `struct timeval`, normalised and not negative. -/
structure TimeVal where
  sec : ℕ
  usec : ℕ
  usec_lt : usec < 1000000
  deriving DecidableEq

/-- Time zero, as `memset` leaves it. -/
def TimeVal.zero : TimeVal := ⟨0, 0, by decide⟩

/-- The time in microseconds. -/
def TimeVal.micros (t : TimeVal) : ℕ := t.sec * 1000000 + t.usec

/-- `timercmp(a, b, <)` -/
def timercmpLt (a b : TimeVal) : Bool :=
  if a.sec = b.sec then decide (a.usec < b.usec) else decide (a.sec < b.sec)

/-- `timercmp(a, b, >)` -/
def timercmpGt (a b : TimeVal) : Bool :=
  if a.sec = b.sec then decide (a.usec > b.usec) else decide (a.sec > b.sec)

/-- `time_t` has 32 bits: the seconds stay below `2 ^ 31`. -/
def secLimit : ℕ := 2147483648

/-- `timeradd`; `none` is the trap when the seconds overflow. -/
def timeradd (a b : TimeVal) : Option TimeVal :=
  if h : a.usec + b.usec < 1000000 then
    if a.sec + b.sec < secLimit then some ⟨a.sec + b.sec, a.usec + b.usec, h⟩ else none
  else if a.sec + b.sec + 1 < secLimit then
    some ⟨a.sec + b.sec + 1, a.usec + b.usec - 1000000, by
      have ha := a.usec_lt
      have hb := b.usec_lt
      omega⟩
  else none

theorem timercmpLt_iff (a b : TimeVal) : timercmpLt a b = true ↔ a.micros < b.micros := by
  have ha := a.usec_lt
  have hb := b.usec_lt
  unfold timercmpLt TimeVal.micros
  split <;> simp only [decide_eq_true_eq] <;> omega

theorem timercmpGt_iff (a b : TimeVal) : timercmpGt a b = true ↔ b.micros < a.micros := by
  have ha := a.usec_lt
  have hb := b.usec_lt
  unfold timercmpGt TimeVal.micros
  split <;> simp only [decide_eq_true_eq] <;> omega

theorem timeradd_micros {a b c : TimeVal} (h : timeradd a b = some c) :
    c.micros = a.micros + b.micros := by
  unfold timeradd at h
  unfold TimeVal.micros
  split at h
  · split at h
    · cases h
      simp only
      omega
    · cases h
  · split at h
    · cases h
      simp only
      omega
    · cases h

/-! ## State -/

/-- The cells that carry links: the two sentinels and the events. -/
inductive Cell where
  | timerList
  | pendingList
  | event (n : ℕ)
  deriving DecidableEq

/-- A timer as `ril_timer_add` added it. -/
structure Entry (π : Type) where
  /-- its position among all timers added -/
  number : ℕ
  deadline : TimeVal
  /-- `func` and `param` -/
  param : Option π
  deriving DecidableEq

/-- A timer whose callback has been run. -/
structure Fired (π : Type) where
  entry : Entry π
  /-- the clock when it was run -/
  time : TimeVal
  deriving DecidableEq

/-- The place of the event loop. -/
inductive Pc where
  | idle
  /-- `firePending`, in front of the test of `ev` -/
  | firing (ev : Cell)
  /-- a callback runs, and `next` is the event to go on with -/
  | inCallback (next : Cell)
  deriving DecidableEq

/-- The timer service.  `number`, `added` and `fired` are records beside the code's data. -/
structure State (π : Type) where
  links : Links Cell
  timeout : Cell → TimeVal
  /-- `func` and `param` of an event -/
  param : Cell → Option π
  clock : TimeVal
  pc : Pc
  number : Cell → ℕ
  added : List (Entry π)
  fired : List (Fired π)

variable {π : Type}

/-- What an event carries. -/
def State.entry (s : State π) (c : Cell) : Entry π := ⟨s.number c, s.timeout c, s.param c⟩

@[simp] theorem State.entry_deadline (s : State π) (c : Cell) :
    (s.entry c).deadline = s.timeout c := rfl

/-- The state after `ril_event_init`. -/
def State.init (π : Type) (now : TimeVal) : State π where
  links := ((Links.null Cell).initList .timerList).initList .pendingList
  timeout := fun _ => .zero
  param := fun _ => none
  clock := now
  pc := .idle
  number := fun _ => 0
  added := []
  fired := []

/-! ## Operations -/

/-- `ril_timer_add`, for an event that `ril_event_set` has set up with `param`. -/
def rilTimerAdd (s : State π) (n : ℕ) (param : π) : Option TimeVal → Option (State π)
  | none => some { s with param := Function.update s.param (.event n) (some param) }
  | some tv => do
      let list ← s.links.next .timerList
      let timeout ← timeradd s.clock tv
      -- keep list sorted
      let list ← scan s.links
        (fun c => timercmpLt (s.timeout c) timeout && decide (c ≠ .timerList))
        (s.added.length + 1) list
      let links ← insertBefore s.links (.event n) list
      some { s with
        links := links
        timeout := Function.update s.timeout (.event n) timeout
        param := Function.update s.param (.event n) (some param)
        number := Function.update s.number (.event n) s.added.length
        added := s.added ++ [⟨s.added.length, timeout, some param⟩] }

/-- The loop of `processTimeouts`. -/
def expire (timeout : Cell → TimeVal) (now : TimeVal) : ℕ → Links Cell → Cell → Option (Links Cell)
  | 0, _, _ => none
  | n + 1, links, tev =>
      if tev ≠ .timerList ∧ timercmpGt now (timeout tev) then do
        -- timer expired
        let next ← links.next tev
        let links ← remove links tev
        let links ← insertBefore links tev .pendingList
        expire timeout now n links next
      else some links

def processTimeouts (s : State π) : Option (State π) := do
  let tev ← s.links.next .timerList
  let links ← expire s.timeout s.clock (s.added.length + 1) s.links tev
  some { s with links := links }

/-- One round of the loop of `firePending`, up to the call of the callback. -/
def fireNext (s : State π) (ev : Cell) : Option (State π) :=
  if ev ≠ .pendingList then do
    let next ← s.links.next ev
    let links ← remove s.links ev
    some { s with
      links := links
      pc := .inCallback next
      fired := s.fired ++ [⟨s.entry ev, s.clock⟩] }
  else some { s with pc := .idle }

/-- What can happen next. -/
inductive Event (π : Type) where
  /-- the monotonic clock goes on -/
  | tick (now : TimeVal)
  /-- any thread, or a running callback, adds an event that is on no list -/
  | timerAdd (n : ℕ) (param : π) (tv : Option TimeVal)
  | processTimeouts
  | firePending
  | fireNext
  | callbackReturns

def step (s : State π) : Event π → Option (State π)
  | .tick now => if s.clock.micros ≤ now.micros then some { s with clock := now } else none
  | .timerAdd n param tv =>
      if s.links.next (.event n) = none then rilTimerAdd s n param tv else none
  | .processTimeouts => if s.pc = .idle then processTimeouts s else none
  | .firePending =>
      if s.pc = .idle then (s.links.next .pendingList).map fun ev => { s with pc := .firing ev }
      else none
  | .fireNext =>
      match s.pc with
      | .firing ev => RilEvent.fireNext s ev
      | _ => none
  | .callbackReturns =>
      match s.pc with
      | .inCallback next => some { s with pc := .firing next }
      | _ => none

/-! ## The timers as lists -/

/-- The timers without links: all that were added, those that have fired, in the order in
which they did, and the two lists. -/
structure Line (π : Type) where
  clock : TimeVal
  added : List (Entry π)
  fired : List (Fired π)
  pending : List (Entry π)
  timers : List (Entry π)

/-- `e` is due no later than `e'`. -/
def Entry.NoLater (e e' : Entry π) : Prop := e.deadline.micros ≤ e'.deadline.micros

instance (e e' : Entry π) : Decidable (e.NoLater e') :=
  inferInstanceAs (Decidable (_ ≤ _))

instance : Std.Total (Entry.NoLater (π := π)) := ⟨fun _ _ => Nat.le_total _ _⟩

instance : IsTrans (Entry π) Entry.NoLater := ⟨fun _ _ _ => Nat.le_trans⟩

/-- The deadline has passed. -/
def Entry.due (now : TimeVal) (e : Entry π) : Bool := decide (e.deadline.micros < now.micros)

theorem Entry.due_iff (now : TimeVal) (e : Entry π) :
    e.due now = true ↔ e.deadline.micros < now.micros :=
  decide_eq_true_iff

/-- What the events do to the lists. -/
inductive Line.Step : Event π → Line π → Line π → Prop
  | tick (l : Line π) (now : TimeVal) (h : l.clock.micros ≤ now.micros) :
      Step (.tick now) l { l with clock := now }
  | add (l : Line π) (n : ℕ) (param : π) (tv deadline : TimeVal)
      (h : timeradd l.clock tv = some deadline) :
      Step (.timerAdd n param (some tv)) l
        { l with
          added := l.added ++ [⟨l.added.length, deadline, some param⟩]
          timers := l.timers.orderedInsert Entry.NoLater ⟨l.added.length, deadline, some param⟩ }
  | addNothing (l : Line π) (n : ℕ) (param : π) : Step (.timerAdd n param none) l l
  | expire (l : Line π) :
      Step .processTimeouts l
        { l with
          pending := l.pending ++ l.timers.takeWhile (Entry.due l.clock)
          timers := l.timers.dropWhile (Entry.due l.clock) }
  | start (l : Line π) : Step .firePending l l
  | fire (l : Line π) (e : Entry π) (rest : List (Entry π)) (h : l.pending = e :: rest) :
      Step .fireNext l { l with fired := l.fired ++ [⟨e, l.clock⟩], pending := rest }
  | done (l : Line π) (h : l.pending = []) : Step .fireNext l l
  | callbackReturns (l : Line π) : Step .callbackReturns l l

/-- Every timer that was added, in the order in which they fire. -/
def Line.all (l : Line π) : List (Entry π) := l.fired.map Fired.entry ++ l.pending ++ l.timers

/-- The timers are accounted for, and in the order of their deadlines. -/
structure Line.Ordered (l : Line π) : Prop where
  /-- every timer added is on exactly one of the lists, or has fired, once -/
  accounted : l.all.Perm l.added
  numbered : l.added.map Entry.number = List.range l.added.length
  sorted : l.all.Pairwise Entry.NoLater
  past : ∀ e ∈ l.fired.map Fired.entry ++ l.pending, e.deadline.micros < l.clock.micros
  /-- no timer has fired before its deadline -/
  timely : ∀ f ∈ l.fired, f.entry.deadline.micros < f.time.micros

theorem Line.Ordered.tick {l : Line π} (h : l.Ordered) {now : TimeVal}
    (hnow : l.clock.micros ≤ now.micros) : { l with clock := now : Line π }.Ordered where
  accounted := h.accounted
  numbered := h.numbered
  sorted := h.sorted
  past := fun e he => lt_of_lt_of_le (h.past e he) hnow
  timely := h.timely

/-- A timer that is added now is due after everything that has been taken off the timer list. -/
theorem Line.Ordered.add {l : Line π} (h : l.Ordered) {e : Entry π}
    (hnumber : e.number = l.added.length) (he : l.clock.micros ≤ e.deadline.micros) :
    { l with
      added := l.added ++ [e]
      timers := l.timers.orderedInsert Entry.NoLater e : Line π }.Ordered where
  accounted := by
    have hperm : (l.timers.orderedInsert Entry.NoLater e).Perm (l.timers ++ [e]) :=
      (List.perm_orderedInsert _ e l.timers).trans (List.perm_append_singleton e l.timers).symm
    have hall : (l.fired.map Fired.entry ++ l.pending ++ (l.timers ++ [e])).Perm
        (l.added ++ [e]) := by
      rw [← List.append_assoc]
      exact h.accounted.append_right [e]
    exact (hperm.append_left _).trans hall
  numbered := by
    simp [h.numbered, hnumber, List.range_succ]
  sorted := by
    obtain ⟨hpast, htimers, hcross⟩ := List.pairwise_append.1 h.sorted
    refine List.pairwise_append.2 ⟨hpast, htimers.orderedInsert e l.timers, ?_⟩
    intro a ha b hb
    rcases (List.mem_orderedInsert Entry.NoLater).1 hb with rfl | hb
    · exact Nat.le_of_lt (lt_of_lt_of_le (h.past a ha) he)
    · exact hcross a ha b hb
  past := h.past
  timely := h.timely

/-- Moving due timers from the front of one list to the end of the other keeps the line. -/
theorem Line.Ordered.expire {l : Line π} (h : l.Ordered) :
    { l with
      pending := l.pending ++ l.timers.takeWhile (Entry.due l.clock)
      timers := l.timers.dropWhile (Entry.due l.clock) : Line π }.Ordered := by
  have hall : ∀ l' : Line π, l' = { l with
      pending := l.pending ++ l.timers.takeWhile (Entry.due l.clock)
      timers := l.timers.dropWhile (Entry.due l.clock) : Line π } → l'.all = l.all := by
    rintro _ rfl
    simp only [Line.all, List.append_assoc, List.takeWhile_append_dropWhile]
  refine ⟨?_, h.numbered, ?_, ?_, h.timely⟩
  · rw [hall _ rfl]
    exact h.accounted
  · rw [hall _ rfl]
    exact h.sorted
  · intro e he
    simp only [← List.append_assoc, List.mem_append] at he
    rcases he with he | he
    · exact h.past e (List.mem_append.2 he)
    · exact (Entry.due_iff _ _).1 (List.mem_takeWhile_imp he)

theorem Line.Ordered.fire {l : Line π} (h : l.Ordered) {e : Entry π} {rest : List (Entry π)}
    (hp : l.pending = e :: rest) :
    { l with fired := l.fired ++ [⟨e, l.clock⟩], pending := rest : Line π }.Ordered := by
  have hall : ∀ l' : Line π,
      l' = { l with fired := l.fired ++ [⟨e, l.clock⟩], pending := rest : Line π } →
        l'.all = l.all := by
    rintro _ rfl
    simp [Line.all, hp]
  refine ⟨?_, h.numbered, ?_, ?_, ?_⟩
  · rw [hall _ rfl]
    exact h.accounted
  · rw [hall _ rfl]
    exact h.sorted
  · intro d hd
    apply h.past d
    simpa [hp] using hd
  · intro f hf
    rcases List.mem_append.1 hf with hf | hf
    · exact h.timely f hf
    · rw [List.mem_singleton.1 hf]
      exact h.past e (by simp [hp])

/-- **The lists, one step.**  Every event keeps the timers accounted for and in order. -/
theorem Line.Step.ordered {e : Event π} {l l' : Line π} (hs : Line.Step e l l')
    (h : l.Ordered) : l'.Ordered := by
  cases hs with
  | tick _ now hnow => exact h.tick hnow
  | add _ n param tv deadline hadd =>
      apply h.add rfl
      rw [timeradd_micros hadd]
      exact Nat.le_add_right _ _
  | addNothing => exact h
  | expire => exact h.expire
  | start => exact h
  | fire _ e rest hp => exact h.fire hp
  | done => exact h
  | callbackReturns => exact h

/-! ## The links hold the lists -/

/-- The timer list holds the cells of `timers`, the pending list those of `pending`. -/
structure State.Holds (s : State π) (timers pending : List Cell) : Prop where
  timerRing : Ring s.links .timerList timers
  pendingRing : Ring s.links .pendingList pending
  apart : (Cell.timerList :: timers).Disjoint (Cell.pendingList :: pending)
  unlinked : ∀ n, Cell.event n ∉ timers ++ pending → s.links.next (.event n) = none
  bounded : timers.length ≤ s.added.length
  /-- where the event loop goes on in the pending list -/
  place : ∀ c, s.pc = .firing c ∨ s.pc = .inCallback c → c = first .pendingList pending

/-- The timers as lists, when the links hold the cells of `timers` and `pending`. -/
def State.line (s : State π) (timers pending : List Cell) : Line π :=
  ⟨s.clock, s.added, s.fired, pending.map s.entry, timers.map s.entry⟩

/-- The lists stay while only the event loop moves, to a place of the pending list. -/
theorem State.Holds.goto {s s' : State π} {timers pending : List Cell} (h : s.Holds timers pending)
    (hlinks : s'.links = s.links) (hadded : s'.added = s.added)
    (hplace : ∀ c, s'.pc = .firing c ∨ s'.pc = .inCallback c → c = first .pendingList pending) :
    s'.Holds timers pending where
  timerRing := hlinks ▸ h.timerRing
  pendingRing := hlinks ▸ h.pendingRing
  apart := h.apart
  unlinked := hlinks ▸ h.unlinked
  bounded := hadded ▸ h.bounded
  place := hplace

/-- An event that is not linked is on no list. -/
theorem State.Holds.notMem {s : State π} {timers pending : List Cell} (h : s.Holds timers pending)
    {c : Cell} (hc : s.links.next c = none) : c ∉ timers ++ pending := by
  intro hm
  rcases List.mem_append.1 hm with hm | hm
  · exact h.timerRing.next_isSome hm hc
  · exact h.pendingRing.next_isSome hm hc

theorem holds_init (now : TimeVal) : (State.init π now).Holds [] [] where
  timerRing := by
    refine (ring_initList (Links.null Cell) .timerList).congr fun c hc => ?_
    rw [List.mem_singleton.1 hc]
    exact ⟨rfl, rfl⟩
  pendingRing := ring_initList ((Links.null Cell).initList .timerList) .pendingList
  apart := by simp
  unlinked := fun n _ => rfl
  bounded := Nat.le_refl 0
  place := by simp [State.init]

/-! ## `processTimeouts` -/

/-- **The loop of `processTimeouts`.**  It moves the cells at the front of the timer list
whose deadline has passed to the end of the pending list, in order, and does not run out
of its budget. -/
theorem expire_spec (timeout : Cell → TimeVal) (now : TimeVal) {L : Links Cell}
    {timers pending : List Cell} (ht : Ring L .timerList timers)
    (hp : Ring L .pendingList pending)
    (hapart : (Cell.timerList :: timers).Disjoint (Cell.pendingList :: pending))
    {n : ℕ} (hn : timers.length < n) :
    ∃ L', expire timeout now n L (first .timerList timers) = some L' ∧
      Ring L' .timerList (timers.dropWhile fun c => timercmpGt now (timeout c)) ∧
      Ring L' .pendingList (pending ++ timers.takeWhile fun c => timercmpGt now (timeout c)) ∧
      (Cell.timerList :: timers.dropWhile fun c => timercmpGt now (timeout c)).Disjoint
        (Cell.pendingList :: (pending ++ timers.takeWhile fun c => timercmpGt now (timeout c))) ∧
      AgreeOff ((Cell.timerList :: timers) ++ (Cell.pendingList :: pending)) L L' := by
  induction timers generalizing L pending n with
  | nil =>
      cases n with
      | zero => simp at hn
      | succ n =>
          exact ⟨L, by simp [expire], ht, by simpa using hp, by simpa using hapart,
            fun _ _ => ⟨rfl, rfl⟩⟩
  | cons c timers ih =>
      cases n with
      | zero => simp at hn
      | succ n =>
          have hc : c ≠ .timerList := ht.ne_sentinel (by simp)
          cases hdue : timercmpGt now (timeout c) with
          | false =>
              refine ⟨L, ?_, ?_, ?_, ?_, fun _ _ => ⟨rfl, rfl⟩⟩
              · simp [expire, hdue]
              · simpa [hdue] using ht
              · simpa [hdue] using hp
              · simpa [hdue] using hapart
          | true =>
              obtain ⟨L₁, hremove, ht₁, -, hoff₁⟩ := ht.removeFirst
              have hp₁ : Ring L₁ .pendingList (pending ++ []) := by
                rw [List.append_nil]
                exact hp.frame hoff₁ fun d hd hd' => hapart hd' hd
              have hcp : c ∉ Cell.pendingList :: (pending ++ []) := by
                simpa using hapart (a := c) (by simp)
              obtain ⟨L₂, hinsert, hp₂, hoff₂⟩ := hp₁.insert hcp
              have hsub : Cell.timerList :: timers ⊆ Cell.timerList :: c :: timers :=
                List.cons_subset_cons _ (List.subset_cons_self c timers)
              -- the cell has changed lists, so they are still apart
              have hapart₂ : (Cell.timerList :: timers).Disjoint
                  (Cell.pendingList :: (pending ++ [c])) := by
                intro d hd hd'
                have hcases : d ∈ Cell.pendingList :: pending ∨ d = c := by
                  simpa [or_assoc] using hd'
                rcases hcases with hpd | rfl
                · exact hapart (hsub hd) hpd
                · exact (nodup_cons_cons ht.nodup).1 hd
              obtain ⟨L', hloop, ht', hp', hapart', hoff'⟩ :=
                ih (ht₁.frame hoff₂ hapart₂) hp₂ hapart₂ (n := n) (by simpa using hn)
              refine ⟨L', ?_, ?_, ?_, ?_, ?_⟩
              · have hinsert' : insertBefore L₁ c .pendingList = some L₂ := hinsert
                simp [expire, hc, hdue, ht.segment.2.next_first, hremove, hinsert', hloop]
              · simpa [hdue] using ht'
              · simpa [hdue] using hp'
              · simpa [hdue] using hapart'
              · have hpsub : Cell.pendingList :: (pending ++ [c]) ⊆
                    (Cell.timerList :: c :: timers) ++ (Cell.pendingList :: pending) := by
                  intro d hd
                  simp only [List.mem_cons, List.mem_append, List.not_mem_nil, or_false] at hd ⊢
                  tauto
                refine ((hoff₁.mono (List.subset_append_left _ _)).trans (hoff₂.mono hpsub)).trans
                  (hoff'.mono ?_)
                exact List.append_subset.2 ⟨fun d hd => List.mem_append_left _ (hsub hd), hpsub⟩

/-- On a list that is sorted, what satisfies a test that is closed downwards is in front. -/
theorem takeWhile_eq_filter {α : Type*} {r : α → α → Prop} {p : α → Bool} {l : List α}
    (hl : l.Pairwise r) (hp : ∀ a b, r a b → p b = true → p a = true) :
    l.takeWhile p = l.filter p ∧ l.dropWhile p = l.filter (fun a => !p a) := by
  induction l with
  | nil => exact ⟨rfl, rfl⟩
  | cons a l ih =>
      obtain ⟨ha, hl⟩ := List.pairwise_cons.1 hl
      cases hpa : p a with
      | true =>
          obtain ⟨htake, hdrop⟩ := ih hl
          simp [hpa, htake, hdrop]
      | false =>
          have hnone : ∀ b ∈ l, p b = false := by
            intro b hb
            by_contra hpb
            have hpa' := hp a b (ha b hb) (by simpa using hpb)
            simp [hpa] at hpa'
          constructor
          · simpa [hpa] using hnone
          · have hall : l.filter (fun b => !p b) = l :=
              List.filter_eq_self.2 fun b hb => by simp [hnone b hb]
            simp [hpa, hall]

/-- A timer is inserted behind those that are due before it, and in front of the others. -/
theorem orderedInsert_eq_filter {l : List (Entry π)} (hl : l.Pairwise Entry.NoLater)
    (e : Entry π) :
    l.orderedInsert Entry.NoLater e =
      l.filter (fun b => decide (b.deadline.micros < e.deadline.micros)) ++
        e :: l.filter fun b => !decide (b.deadline.micros < e.deadline.micros) := by
  have hlt : (fun b => decide ¬ Entry.NoLater e b) =
      fun b => decide (b.deadline.micros < e.deadline.micros) := by
    funext b
    exact decide_eq_decide.2 Nat.not_le
  obtain ⟨htake, hdrop⟩ := takeWhile_eq_filter
    (p := fun b => decide (b.deadline.micros < e.deadline.micros)) hl (by
      intro a b hab hb
      exact decide_eq_true (lt_of_le_of_lt hab (of_decide_eq_true hb)))
  rw [List.orderedInsert_eq_take_drop, hlt, htake, hdrop]

theorem takeWhile_congr {α : Type*} {p q : α → Bool} {l : List α} (h : ∀ a ∈ l, p a = q a) :
    l.takeWhile p = l.takeWhile q ∧ l.dropWhile p = l.dropWhile q := by
  induction l with
  | nil => exact ⟨rfl, rfl⟩
  | cons a l ih =>
      have ha := h a (by simp)
      have hl := ih fun b hb => h b (by simp [hb])
      simp [List.takeWhile_cons, List.dropWhile_cons, ha, hl.1, hl.2]

/-- **`processTimeouts`.**  On well-linked lists it returns, and moves the due timers. -/
theorem processTimeouts_spec {s : State π} {timers pending : List Cell}
    (h : s.Holds timers pending) :
    ∃ links, processTimeouts s = some { s with links := links } ∧
      (s.pc = .idle → { s with links := links : State π }.Holds
        (timers.dropWhile fun c => timercmpGt s.clock (s.timeout c))
        (pending ++ timers.takeWhile fun c => timercmpGt s.clock (s.timeout c))) := by
  obtain ⟨links, hloop, ht, hp, hapart, hoff⟩ := expire_spec s.timeout s.clock h.timerRing
    h.pendingRing h.apart (Nat.lt_succ_of_le h.bounded)
  refine ⟨links, ?_, fun hpc => ⟨ht, hp, hapart, ?_, ?_, ?_⟩⟩
  · simp [processTimeouts, h.timerRing.next_sentinel, hloop]
  · intro n hn
    have hnot : Cell.event n ∉ timers ++ pending := by
      intro hmem
      rw [← List.takeWhile_append_dropWhile (p := fun c => timercmpGt s.clock (s.timeout c))
        (l := timers)] at hmem
      apply hn
      simp only [List.mem_append] at hmem ⊢
      tauto
    change links.next (.event n) = none
    rw [(hoff (.event n) (by simpa using hnot)).1]
    exact h.unlinked n hnot
  · exact Nat.le_trans (List.dropWhile_sublist _).length_le h.bounded
  · intro c hc
    exact absurd hc (by simp [hpc])

/-- **`ril_timer_add`.**  For an event on no list and a deadline that does not overflow it
returns, and inserts the event in front of the first timer that is due no earlier. -/
theorem rilTimerAdd_spec {s : State π} {timers pending : List Cell} (h : s.Holds timers pending)
    {n : ℕ} (hn : s.links.next (.event n) = none) (param : π) {tv deadline : TimeVal}
    (hadd : timeradd s.clock tv = some deadline) :
    ∃ s', rilTimerAdd s n param (some tv) = some s' ∧
      s'.Holds
        ((timers.takeWhile fun c => timercmpLt (s.timeout c) deadline) ++ .event n ::
          timers.dropWhile fun c => timercmpLt (s.timeout c) deadline) pending ∧
      s'.clock = s.clock ∧ s'.fired = s.fired ∧
      s'.added = s.added ++ [⟨s.added.length, deadline, some param⟩] ∧
      s'.entry = Function.update s.entry (.event n) ⟨s.added.length, deadline, some param⟩ := by
  have hnot := h.notMem hn
  obtain ⟨htake, hdrop⟩ := takeWhile_congr (l := timers)
    (p := fun c => timercmpLt (s.timeout c) deadline && decide (c ≠ .timerList))
    (q := fun c => timercmpLt (s.timeout c) deadline) (by
      intro c hc
      have hne : c ≠ .timerList := h.timerRing.ne_sentinel hc
      simp [hne])
  have hscan := scan_segment (L := s.links) (s := .timerList)
    (fun c => timercmpLt (s.timeout c) deadline && decide (c ≠ .timerList))
    (by simp) h.timerRing.segment (Nat.lt_succ_of_le h.bounded)
  rw [hdrop] at hscan
  have hring := h.timerRing
  rw [← List.takeWhile_append_dropWhile (p := fun c => timercmpLt (s.timeout c) deadline)
    (l := timers)] at hring
  have hfresh : Cell.event n ∉ Cell.timerList ::
      ((timers.takeWhile fun c => timercmpLt (s.timeout c) deadline) ++
        timers.dropWhile fun c => timercmpLt (s.timeout c) deadline) := by
    rw [List.takeWhile_append_dropWhile]
    intro hmem
    exact hnot (List.mem_append_left pending ((List.mem_cons.1 hmem).resolve_left (by simp)))
  obtain ⟨links, hinsert, ht, hoff⟩ := hring.insert hfresh
  have hmem : ∀ c, c ∈ (timers.takeWhile fun c => timercmpLt (s.timeout c) deadline) ++
      Cell.event n :: (timers.dropWhile fun c => timercmpLt (s.timeout c) deadline) ↔
      c = .event n ∨ c ∈ timers := by
    intro c
    rw [List.perm_middle.mem_iff, List.takeWhile_append_dropWhile, List.mem_cons]
  have hapart : (Cell.timerList ::
      ((timers.takeWhile fun c => timercmpLt (s.timeout c) deadline) ++
        Cell.event n :: timers.dropWhile fun c => timercmpLt (s.timeout c) deadline)).Disjoint
      (Cell.pendingList :: pending) := by
    intro c hc hc'
    rcases List.mem_cons.1 hc with rfl | hc
    · exact h.apart (by simp) hc'
    · rcases (hmem c).1 hc with rfl | hc
      · exact hnot (List.mem_append_right timers ((List.mem_cons.1 hc').resolve_left (by simp)))
      · exact h.apart (List.mem_cons_of_mem _ hc) hc'
  refine ⟨{ s with
      links := links
      timeout := Function.update s.timeout (.event n) deadline
      param := Function.update s.param (.event n) (some param)
      number := Function.update s.number (.event n) s.added.length
      added := s.added ++ [⟨s.added.length, deadline, some param⟩] },
    ?_, ⟨ht, h.pendingRing.frame hoff fun c hc hc' => hapart hc' hc, hapart, ?_, ?_, h.place⟩,
    rfl, rfl, rfl, ?_⟩
  · rw [Nat.succ_eq_add_one] at hscan
    simp only [rilTimerAdd, h.timerRing.next_sentinel, hadd, hscan, hinsert,
      Option.bind_eq_bind, Option.bind_some]
  · intro m hm
    obtain ⟨hmt, hmp⟩ := not_or.1 (mt List.mem_append.2 hm)
    change links.next (.event m) = none
    rw [(hoff (.event m) fun hc => hmt ((List.mem_cons.1 hc).resolve_left (by simp))).1]
    refine h.unlinked m fun hc => ?_
    rcases List.mem_append.1 hc with hc | hc
    · exact hmt ((hmem _).2 (.inr hc))
    · exact hmp hc
  · have hlen := congrArg List.length (List.takeWhile_append_dropWhile
      (p := fun c => timercmpLt (s.timeout c) deadline) (l := timers))
    have hle := h.bounded
    simp only [List.length_append, List.length_cons, List.length_nil] at hlen ⊢
    omega
  · funext c
    by_cases hc : c = .event n
    · subst hc
      simp [State.entry]
    · simp [State.entry, hc]

/-- **`firePending`, one round.**  It takes the first event off the pending list. -/
theorem fireNext_spec {s : State π} {timers pending : List Cell} {ev : Cell}
    (h : s.Holds timers (ev :: pending)) :
    ∃ s', fireNext s ev = some s' ∧ s'.Holds timers pending ∧ s'.clock = s.clock ∧
      s'.added = s.added ∧ s'.fired = s.fired ++ [⟨s.entry ev, s.clock⟩] ∧
      s'.entry = s.entry := by
  have hev : ev ≠ .pendingList := h.pendingRing.ne_sentinel (by simp)
  obtain ⟨links, hremove, hp, hnone, hoff⟩ := h.pendingRing.removeFirst
  refine ⟨{ s with
      links := links
      pc := .inCallback (first .pendingList pending)
      fired := s.fired ++ [⟨s.entry ev, s.clock⟩] },
    ?_, ⟨h.timerRing.frame hoff ?_, hp, ?_, ?_, h.bounded, ?_⟩, rfl, rfl, rfl, rfl⟩
  · simp [fireNext, hev, h.pendingRing.segment.2.next_first, hremove]
  · exact h.apart
  · intro c hc hc'
    exact h.apart hc (List.cons_subset_cons _ (List.subset_cons_self ev pending) hc')
  · intro n hn
    obtain ⟨hnt, hnp⟩ := not_or.1 (mt List.mem_append.2 hn)
    change links.next (.event n) = none
    by_cases hne : Cell.event n = ev
    · rw [hne]
      exact hnone
    · rw [(hoff (.event n) (by simp [hne, hnp])).1]
      exact h.unlinked n (by simp [hnt, hne, hnp])
  · rintro c (hc | hc)
    · exact absurd hc (by simp)
    · exact (Pc.inCallback.inj hc).symm

/-! ## Reading the lists -/

/-- What the events on the timer list carry, in order. -/
def State.timerEntries (s : State π) : List (Entry π) :=
  (toList s.links .timerList s.added.length).map s.entry

/-- What the events on the pending list carry, in order. -/
def State.pendingEntries (s : State π) : List (Entry π) :=
  (toList s.links .pendingList s.added.length).map s.entry

theorem State.Holds.timerEntries_eq {s : State π} {timers pending : List Cell}
    (h : s.Holds timers pending) : s.timerEntries = timers.map s.entry := by
  rw [State.timerEntries, h.timerRing.toList_eq h.bounded]

theorem State.Holds.pendingEntries_eq {s : State π} {timers pending : List Cell}
    (h : s.Holds timers pending) (hord : (s.line timers pending).Ordered) :
    s.pendingEntries = pending.map s.entry := by
  have hlen := hord.accounted.length_eq
  simp only [Line.all, State.line, List.length_append, List.length_map] at hlen
  rw [State.pendingEntries, h.pendingRing.toList_eq (by omega)]

/-! ## The code refines the lists -/

theorem line_expire (s : State π) (timers pending : List Cell) (links : Links Cell) :
    { s with links := links : State π }.line
        (timers.dropWhile fun c => timercmpGt s.clock (s.timeout c))
        (pending ++ timers.takeWhile fun c => timercmpGt s.clock (s.timeout c)) =
      { s.line timers pending with
        pending := pending.map s.entry ++
          (timers.map s.entry).takeWhile (Entry.due s.clock)
        timers := (timers.map s.entry).dropWhile (Entry.due s.clock) } := by
  have hdue : (Entry.due s.clock) ∘ s.entry = fun c => timercmpGt s.clock (s.timeout c) := by
    funext c
    rw [Bool.eq_iff_iff, timercmpGt_iff, Function.comp_apply, Entry.due_iff, State.entry_deadline]
  have hentry : State.entry { s with links := links } = s.entry := rfl
  rw [List.takeWhile_map, List.dropWhile_map, hdue]
  simp only [State.line, hentry, List.map_append]

/-- A list that an event is not on carries the same when only the event has changed. -/
theorem map_entry_congr {s s' : State π} {c : Cell} {l : List Cell} (hc : c ∉ l)
    (h : ∀ d, d ≠ c → s'.entry d = s.entry d) : l.map s'.entry = l.map s.entry :=
  List.map_congr_left fun d hd => h d (ne_of_mem_of_not_mem hd hc)

/-- The parameter of an event that is on no list does not show. -/
theorem line_addNothing (s : State π) {timers pending : List Cell} {n : ℕ} (param : π)
    (hnot : Cell.event n ∉ timers ++ pending) :
    State.line { s with param := Function.update s.param (.event n) (some param) } timers pending =
      s.line timers pending := by
  obtain ⟨htimers, hpending⟩ := not_or.1 (mt List.mem_append.2 hnot)
  have hentry : ∀ d, d ≠ .event n →
      State.entry { s with param := Function.update s.param (.event n) (some param) } d =
        s.entry d := by
    intro d hd
    simp [State.entry, hd]
  simp only [State.line, map_entry_congr htimers hentry, map_entry_congr hpending hentry]

theorem line_add {s s' : State π} {timers pending : List Cell} {n : ℕ} {deadline : TimeVal}
    {param : π} (hnot : Cell.event n ∉ timers ++ pending) (hclock : s'.clock = s.clock)
    (hfired : s'.fired = s.fired)
    (hadded : s'.added = s.added ++ [⟨s.added.length, deadline, some param⟩])
    (hentry : s'.entry =
      Function.update s.entry (.event n) ⟨s.added.length, deadline, some param⟩) :
    s'.line ((timers.takeWhile fun c => timercmpLt (s.timeout c) deadline) ++ .event n ::
        timers.dropWhile fun c => timercmpLt (s.timeout c) deadline) pending =
      { s.line timers pending with
        added := s.added ++ [⟨s.added.length, deadline, some param⟩]
        timers := (timers.map s.entry).orderedInsert Entry.NoLater
          ⟨s.added.length, deadline, some param⟩ } := by
  obtain ⟨htimers, hpending⟩ := not_or.1 (mt List.mem_append.2 hnot)
  have hkeep : ∀ d, d ≠ .event n → s'.entry d = s.entry d := by
    intro d hd
    rw [hentry, Function.update_of_ne hd]
  have hlt : (fun e => decide ¬ Entry.NoLater ⟨s.added.length, deadline, some param⟩ e) ∘ s.entry
      = fun c => timercmpLt (s.timeout c) deadline := by
    funext c
    rw [Bool.eq_iff_iff, timercmpLt_iff, Function.comp_apply, decide_eq_true_iff]
    exact Nat.not_le
  rw [List.orderedInsert_eq_take_drop, List.takeWhile_map, List.dropWhile_map, hlt]
  simp only [State.line, hclock, hadded, hfired, List.map_append, List.map_cons]
  rw [map_entry_congr hpending hkeep,
    map_entry_congr (fun hc => htimers ((List.takeWhile_sublist _).subset hc)) hkeep,
    map_entry_congr (fun hc => htimers ((List.dropWhile_sublist _).subset hc)) hkeep,
    hentry, Function.update_self]

/-- **One step of the code is one step of the lists.** -/
theorem step_line {s s' : State π} {e : Event π} {timers pending : List Cell}
    (h : s.Holds timers pending) (hs : step s e = some s') :
    ∃ timers' pending', s'.Holds timers' pending' ∧
      Line.Step e (s.line timers pending) (s'.line timers' pending') := by
  cases e with
  | tick now =>
      simp only [step, Option.ite_none_right_eq_some, Option.some.injEq] at hs
      obtain ⟨hnow, rfl⟩ := hs
      exact ⟨timers, pending, h.goto rfl rfl h.place, .tick _ now hnow⟩
  | timerAdd n param tv =>
      simp only [step, Option.ite_none_right_eq_some] at hs
      obtain ⟨hn, hadd⟩ := hs
      have hnot := h.notMem hn
      cases tv with
      | none =>
          cases Option.some.inj hadd
          refine ⟨timers, pending, h.goto rfl rfl h.place, ?_⟩
          rw [line_addNothing s param hnot]
          exact .addNothing (s.line timers pending) n param
      | some tv =>
          cases hdeadline : timeradd s.clock tv with
          | none => simp [rilTimerAdd, hdeadline, h.timerRing.next_sentinel] at hadd
          | some deadline =>
              obtain ⟨t, ht, hholds, hclock, hfired, hadded, hentry⟩ :=
                rilTimerAdd_spec h hn param hdeadline
              cases Option.some.inj (ht.symm.trans hadd)
              refine ⟨_, _, hholds, ?_⟩
              rw [line_add hnot hclock hfired hadded hentry]
              exact .add (s.line timers pending) n param tv deadline hdeadline
  | processTimeouts =>
      simp only [step, Option.ite_none_right_eq_some] at hs
      obtain ⟨hpc, hmove⟩ := hs
      obtain ⟨links, hlinks, hholds⟩ := processTimeouts_spec h
      cases Option.some.inj (hlinks.symm.trans hmove)
      refine ⟨_, _, hholds hpc, ?_⟩
      rw [line_expire]
      exact .expire (s.line timers pending)
  | firePending =>
      simp only [step, Option.ite_none_right_eq_some, h.pendingRing.next_sentinel,
        Option.map_some, Option.some.injEq] at hs
      obtain ⟨-, rfl⟩ := hs
      refine ⟨timers, pending, h.goto rfl rfl ?_, .start _⟩
      rintro c (hc | hc)
      · exact (Pc.firing.inj hc).symm
      · exact absurd hc (by simp)
  | fireNext =>
      cases hpc : s.pc with
      | idle => simp [step, hpc] at hs
      | inCallback next => simp [step, hpc] at hs
      | firing ev =>
          simp only [step, hpc] at hs
          have hev := h.place ev (.inl hpc)
          cases pending with
          | nil =>
              have hev' : ev = .pendingList := hev
              simp only [fireNext, hev', ne_eq, not_true_eq_false, if_false,
                Option.some.injEq] at hs
              subst hs
              refine ⟨timers, [], h.goto rfl rfl ?_, .done _ rfl⟩
              rintro c (hc | hc) <;> exact absurd hc (by simp)
          | cons c pending =>
              have hev' : ev = c := hev
              subst hev'
              obtain ⟨t, ht, hholds, hclock, hadded, hfired, hentry⟩ := fireNext_spec h
              cases Option.some.inj (ht.symm.trans hs)
              refine ⟨timers, pending, hholds, ?_⟩
              have hline := Line.Step.fire (s.line timers (ev :: pending)) (s.entry ev)
                (pending.map s.entry) rfl
              simp only [State.line, hclock, hadded, hfired, hentry] at hline ⊢
              exact hline
  | callbackReturns =>
      cases hpc : s.pc with
      | idle => simp [step, hpc] at hs
      | firing ev => simp [step, hpc] at hs
      | inCallback next =>
          simp only [step, hpc, Option.some.injEq] at hs
          subst hs
          refine ⟨timers, pending, h.goto rfl rfl ?_, .callbackReturns _⟩
          rintro c (hc | hc)
          · rw [← Pc.firing.inj hc]
            exact h.place next (.inr hpc)
          · exact absurd hc (by simp)

/-- The links hold the lists of `l`, and these are in order. -/
def State.Shows (s : State π) (l : Line π) : Prop :=
  ∃ timers pending, s.Holds timers pending ∧ s.line timers pending = l ∧ l.Ordered

theorem shows_init (now : TimeVal) : (State.init π now).Shows ⟨now, [], [], [], []⟩ := by
  refine ⟨[], [], holds_init now, rfl, ?_, rfl, ?_, ?_, ?_⟩
  · simp [Line.all]
  · simp [Line.all]
  · simp
  · simp

theorem State.Shows.timerEntries_eq {s : State π} {l : Line π} (h : s.Shows l) :
    s.timerEntries = l.timers := by
  obtain ⟨timers, pending, hholds, rfl, -⟩ := h
  exact hholds.timerEntries_eq

theorem State.Shows.pendingEntries_eq {s : State π} {l : Line π} (h : s.Shows l) :
    s.pendingEntries = l.pending := by
  obtain ⟨timers, pending, hholds, rfl, hord⟩ := h
  exact hholds.pendingEntries_eq hord

theorem State.Shows.clock_eq {s : State π} {l : Line π} (h : s.Shows l) : l.clock = s.clock := by
  obtain ⟨timers, pending, -, rfl, -⟩ := h
  rfl

theorem State.Shows.ordered {s : State π} {l : Line π} (h : s.Shows l) : l.Ordered := by
  obtain ⟨timers, pending, -, -, hord⟩ := h
  exact hord

/-- In front of the test of `firePending` is the first pending timer, or the sentinel. -/
theorem State.Shows.firing {s : State π} {l : Line π} (h : s.Shows l) {ev : Cell}
    (hpc : s.pc = .firing ev) :
    (ev = .pendingList ∧ l.pending = []) ∨
      (ev ≠ .pendingList ∧ ∃ rest, l.pending = s.entry ev :: rest) := by
  obtain ⟨timers, pending, hholds, rfl, -⟩ := h
  have hev := hholds.place ev (.inl hpc)
  have hnd := hholds.pendingRing.nodup
  cases pending with
  | nil => exact .inl ⟨hev, rfl⟩
  | cons c pending =>
      have hev' : ev = c := hev
      subst hev'
      refine .inr ⟨?_, pending.map s.entry, rfl⟩
      rintro rfl
      simp at hnd

/-- **The code, one step.**  What it shows takes a step of the lists. -/
theorem State.Shows.step {s s' : State π} {l : Line π} {e : Event π} (h : s.Shows l)
    (hs : step s e = some s') : ∃ l', s'.Shows l' ∧ Line.Step e l l' := by
  obtain ⟨timers, pending, hholds, rfl, hord⟩ := h
  obtain ⟨timers', pending', hholds', hline⟩ := step_line hholds hs
  exact ⟨_, ⟨timers', pending', hholds', rfl, hline.ordered hord⟩, hline⟩

/-! ## Main result -/

/-- No operation of the service meets a null link or runs without end: the event loop can
always go on, and any event that is on no list can be added. -/
structure State.Live (s : State π) : Prop where
  processTimeouts : s.pc = .idle → (step s .processTimeouts).isSome
  firePending : s.pc = .idle → (step s .firePending).isSome
  fireNext : ∀ ev, s.pc = .firing ev → (step s .fireNext).isSome
  timerAdd : ∀ n param tv, s.links.next (.event n) = none → (timeradd s.clock tv).isSome →
    (step s (.timerAdd n param (some tv))).isSome

/-- The timer service is in order: the links of both lists are those of circular lists,
each timer added is on the timer list, or on the pending list, or has fired, just once
and not before its deadline; the timer list, and the order in which the timers fire,
is that of the deadlines; and `processTimeouts` moves exactly the timers whose deadline
has passed. -/
def State.Accounted (s : State π) : Prop :=
  ∃ timers pending, s.Holds timers pending ∧ (s.line timers pending).Ordered ∧ s.Live ∧
    (s.pc = .idle → ∃ links, step s .processTimeouts = some { s with links := links } ∧
      { s with links := links : State π }.Holds
        (timers.filter fun c => !(s.entry c).due s.clock)
        (pending ++ timers.filter fun c => (s.entry c).due s.clock))

theorem State.Holds.live {s : State π} {timers pending : List Cell}
    (h : s.Holds timers pending) : s.Live where
  processTimeouts := by
    intro hpc
    obtain ⟨links, hlinks, -⟩ := processTimeouts_spec h
    simp [step, hpc, hlinks]
  firePending := by
    intro hpc
    simp [step, hpc, h.pendingRing.next_sentinel]
  fireNext := by
    intro ev hpc
    have hev := h.place ev (.inl hpc)
    simp only [step, hpc]
    cases pending with
    | nil =>
        have hev' : ev = .pendingList := hev
        simp [RilEvent.fireNext, hev']
    | cons c pending =>
        have hev' : ev = c := hev
        subst hev'
        obtain ⟨t, ht, -⟩ := fireNext_spec h
        simp [ht]
  timerAdd := by
    intro n param tv hn hadd
    obtain ⟨deadline, hdeadline⟩ := Option.isSome_iff_exists.1 hadd
    obtain ⟨t, ht, -⟩ := rilTimerAdd_spec h hn param hdeadline
    simp [step, hn, ht]

theorem accounted_of_holds {s : State π} {timers pending : List Cell}
    (h : s.Holds timers pending) (hord : (s.line timers pending).Ordered) : s.Accounted := by
  refine ⟨timers, pending, h, hord, h.live, fun hpc => ?_⟩
  obtain ⟨links, hlinks, hholds⟩ := processTimeouts_spec h
  refine ⟨links, by simp [step, hpc, hlinks], ?_⟩
  have hsorted : timers.Pairwise fun c d => (s.entry c).NoLater (s.entry d) := by
    have hall := (List.pairwise_append.1 hord.sorted).2.1
    exact List.pairwise_map.1 hall
  have hdue : (fun c => timercmpGt s.clock (s.timeout c)) =
      fun c => (s.entry c).due s.clock := by
    funext c
    rw [Bool.eq_iff_iff, timercmpGt_iff, Entry.due_iff, State.entry_deadline]
  obtain ⟨htake, hdrop⟩ := takeWhile_eq_filter (p := fun c => (s.entry c).due s.clock) hsorted (by
    intro c d hcd hd
    rw [Entry.due_iff] at hd ⊢
    exact lt_of_le_of_lt hcd hd)
  have hholds' := hholds hpc
  rw [hdue, htake, hdrop] at hholds'
  exact hholds'

/-- **The timer service.**  In every run of additions, from any thread and from the
callbacks themselves, of `processTimeouts` and of `firePending`, under a clock that does not
go back, every timer is accounted for, in every state. -/
theorem timers_accounted (now : TimeVal) (es : List (Event π)) :
    Always step State.Accounted (State.init π now) es := by
  have hshows : Always step (fun s : State π => ∃ l, s.Shows l) (State.init π now) es := by
    refine always_of_step ?_ ⟨_, shows_init now⟩ es
    rintro s e s' ⟨l, hl⟩ hs
    obtain ⟨l', hl', -⟩ := hl.step hs
    exact ⟨l', hl'⟩
  apply hshows.mono
  rintro s ⟨l, timers, pending, hholds, rfl, hord⟩
  exact accounted_of_holds hholds hord

end RilEvent
