/-
# The event loop and its wake-up pipe

`ril_event_loop` sleeps in `select` until the earliest deadline it has seen.  A thread that adds
a timer meanwhile writes to a pipe afterwards, in a step of its own; a callback that adds one runs
on the loop itself and writes nothing.  The pipe is emptied by an event of the loop.

* `State`, `step` : the timers, the watch table, the pipe, and the place of each thread;
* `State.Inv` : while the loop computes its wait or sleeps, what it has not seen is announced;
* `no_lost_wakeup` : no timer is left to a sleep that is too long;
* `overdue_taken` : the loop leaves `select` for a timer that is overdue, and takes it.
-/
import Ct07.Event.NextTimeout
import Ct07.Event.WatchTable

open PartialStep RilEvent

namespace EventLoop

/-! ## State -/

/-- Where the dispatch thread is. -/
inductive Pc where
  /-- `eventLoop`, in front of `pipe` -/
  | starting
  /-- in front of `rilEventAddWakeup` -/
  | adding
  /-- the head of the loop -/
  | top
  /-- `calcNextTimeout` has read the first timer, and not the clock yet -/
  | calculating (rfds : Finset ℕ) (tev : Cell)
  /-- in front of `select`, with the wait that was computed at `computed` -/
  | selecting (rfds : Finset ℕ) (wait : Option Wait) (computed : TimeVal)
  /-- in `select`, which was called at `called` -/
  | asleep (rfds : Finset ℕ) (wait : Option Wait) (computed called : TimeVal)
  /-- `select` has returned with these descriptors -/
  | selected (rfds : Finset ℕ)
  /-- in front of `processReadReadies` -/
  | expired (rfds : Finset ℕ)
  /-- in `firePending`; these events are on the pending list, behind its timers -/
  | firing (readies : List ℕ)
  /-- `eventLoop` has returned, or the process is killed -/
  | ended

variable {π : Type}

/-- The loop and the threads that add timers.  `listMutex` makes each operation on the lists one
step. -/
structure State (π : Type) where
  timers : RilEvent.State π
  watch : WatchTable.State
  /-- the bytes in the pipe; there is none until `s_fdWakeupWrite` is set -/
  pipe : Option ℕ
  pc : Pc
  /-- the number of the timer that a thread has added without having written yet -/
  owes : ℕ → Option ℕ

/-- The state that `ril_event_init` leaves. -/
def State.init (π : Type) (now : TimeVal) : State π where
  timers := RilEvent.State.init π now
  watch := WatchTable.State.init (fun _ => 0) fun _ => false
  pipe := none
  pc := .starting
  owes := fun _ => none

/-- The address of `s_wakeupfd_event`. -/
def wakeupEvent : ℕ := 0

/-- `s_fdWakeupRead` -/
def State.wakeupFd (s : State π) : ℕ := s.watch.fd wakeupEvent

/-- The descriptors among `rfds` that can be read: the pipe when it is not empty. -/
def State.readable (s : State π) (rfds : Finset ℕ) : Finset ℕ :=
  if 0 < s.pipe.getD 0 then rfds.filter fun fd => fd = s.wakeupFd else ∅

/-! ## Operations -/

/-- The write of `triggerEvLoop`, which the dispatch thread leaves out.  It waits while the pipe
is full; without a pipe the byte goes to descriptor 0. -/
def triggerEvLoop (capacity : ℕ) (s : State π) (onDispatch : Bool) : Option (State π) :=
  if onDispatch then some s
  else match s.pipe with
    | none => some s
    | some bytes => if bytes < capacity then some { s with pipe := some (bytes + 1) } else none

/-- `rilEventAddWakeup`; `stored` is whether `s_tid_dispatch` is. -/
def rilEventAddWakeup (capacity : ℕ) (s : State π) (ev : ℕ) (stored : Bool) : Option (State π) :=
  triggerEvLoop capacity { s with watch := WatchTable.rilEventAdd s.watch ev } stored

/-- The rest of `calcNextTimeout`, after the first timer has been read. -/
def nextWait (s : RilEvent.State π) (tev : Cell) : Option Wait :=
  if tev = .timerList then none else some (waitUntil (s.timeout tev) s.clock)

/-- The time for which `select` was called is over. -/
def waitOver (now called : TimeVal) : Option Wait → Prop
  | none => False
  | some wait => (called.micros : ℤ) + wait.micros ≤ now.micros

instance (now called : TimeVal) : ∀ wait, Decidable (waitOver now called wait)
  | none => inferInstanceAs (Decidable False)
  | some _ => inferInstanceAs (Decidable (_ ≤ _))

/-- One `read` of `processWakeupCallback`, of at most 16 bytes; it is the last one when the pipe
is empty. -/
def readWakeup (s : State π) (rest : List ℕ) : State π :=
  match s.pipe with
  | some (bytes + 1) => { s with pipe := some (bytes + 1 - 16) }
  | _ => { s with pc := .firing rest }

/-- One round of the loop of `firePending`. -/
def fireNext (s : State π) (readies : List ℕ) : Option (State π) :=
  match s.timers.pc with
  | .firing _ => (RilEvent.step s.timers .fireNext).map fun timers => { s with timers := timers }
  | .inCallback _ => none
  | .idle =>
      match readies with
      | [] => some { s with pc := .top }
      | ev :: rest =>
          if ev = wakeupEvent then some (readWakeup s rest) else some { s with pc := .firing rest }

/-! ## Steps -/

inductive Event (π : Type) where
  | tick (now : TimeVal)
  /-- `internalRequestTimedCallback` on another thread, up to `ril_timer_add` -/
  | request (thread n : ℕ) (param : π) (tv : TimeVal)
  /-- and its `triggerEvLoop` -/
  | trigger (thread : ℕ)
  | openPipe (fdWakeupRead : ℕ)
  | pipeFails
  | addWakeup (stored : Bool)
  /-- the copy of `readFds`, and the first timer -/
  | readFirst
  | computeWait
  | callSelect
  | selectReturns
  /-- `EINTR` -/
  | selectInterrupted
  | selectFails
  | processTimeouts
  | processReadReadies
  | fireNext
  /-- a running callback calls `internalRequestTimedCallback` -/
  | callbackRequests (n : ℕ) (param : π) (tv : TimeVal)
  | callbackReturns

/-- The pipe holds at most `capacity` bytes. -/
def step (capacity : ℕ) (s : State π) : Event π → Option (State π)
  | .tick now =>
      (RilEvent.step s.timers (.tick now)).map fun timers => { s with timers := timers }
  | .request thread n param tv =>
      if s.owes thread = none then
        (RilEvent.step s.timers (.timerAdd n param (some tv))).map fun timers => { s with
          timers := timers
          owes := Function.update s.owes thread (some s.timers.added.length) }
      else none
  | .trigger thread =>
      if s.owes thread = none then none
      else (triggerEvLoop capacity s false).map fun s =>
        { s with owes := Function.update s.owes thread none }
  | .openPipe fd =>
      match s.pc with
      | .starting => some { s with
          watch := WatchTable.rilEventSet s.watch wakeupEvent fd true
          pipe := some 0
          pc := .adding }
      | _ => none
  | .pipeFails =>
      match s.pc with
      | .starting => some { s with pc := .ended }
      | _ => none
  | .addWakeup stored =>
      match s.pc with
      | .adding =>
          (rilEventAddWakeup capacity s wakeupEvent stored).map fun s => { s with pc := .top }
      | _ => none
  | .readFirst =>
      match s.pc with
      | .top => (s.timers.links.next .timerList).map fun tev =>
          { s with pc := .calculating s.watch.readFds tev }
      | _ => none
  | .computeWait =>
      match s.pc with
      | .calculating rfds tev =>
          some { s with pc := .selecting rfds (nextWait s.timers tev) s.timers.clock }
      | _ => none
  | .callSelect =>
      match s.pc with
      | .selecting rfds wait computed =>
          some { s with pc := .asleep rfds wait computed s.timers.clock }
      | _ => none
  | .selectReturns =>
      match s.pc with
      | .asleep rfds wait _ called =>
          if (s.readable rfds).Nonempty ∨ waitOver s.timers.clock called wait then
            some { s with pc := .selected (s.readable rfds) }
          else none
      | _ => none
  | .selectInterrupted =>
      match s.pc with
      | .asleep .. => some { s with pc := .top }
      | _ => none
  | .selectFails =>
      match s.pc with
      | .asleep .. => some { s with pc := .ended }
      | _ => none
  | .processTimeouts =>
      match s.pc with
      | .selected rfds => (RilEvent.step s.timers .processTimeouts).map fun timers =>
          { s with timers := timers, pc := .expired rfds }
      | _ => none
  | .processReadReadies =>
      match s.pc with
      | .expired rfds => (RilEvent.step s.timers .firePending).map fun timers => { s with
          timers := timers
          watch := (WatchTable.processReadReadies s.watch rfds rfds.card).1
          pc := .firing (WatchTable.processReadReadies s.watch rfds rfds.card).2 }
      | _ => none
  | .fireNext =>
      match s.pc with
      | .firing readies => EventLoop.fireNext s readies
      | _ => none
  | .callbackRequests n param tv =>
      match s.pc, s.timers.pc with
      | .firing _, .inCallback _ =>
          (RilEvent.step s.timers (.timerAdd n param (some tv))).map fun timers =>
            { s with timers := timers }
      | _, _ => none
  | .callbackReturns =>
      match s.pc with
      | .firing _ =>
          (RilEvent.step s.timers .callbackReturns).map fun timers => { s with timers := timers }
      | _ => none

/-! ## What is proved -/

/-- A thread has added the timer, and has not written to the pipe yet. -/
def State.Owed (s : State π) (e : Entry π) : Prop := ∃ thread, s.owes thread = some e.number

/-- A wait that was computed at `computed` does not go beyond the deadline. -/
def InTime (computed : TimeVal) (wait : Option Wait) (e : Entry π) : Prop :=
  ∃ w ∈ wait, (computed.micros : ℤ) + w.micros ≤ max computed.micros e.deadline.micros

/-- While the loop sleeps, each armed timer is seen by its wait, or announced by a byte in the
pipe that `select` watches, or the thread that added it has not written yet. -/
def State.NoLostWakeup (s : State π) : Prop :=
  ∀ rfds wait computed called, s.pc = .asleep rfds wait computed called →
    ∀ e, s.timers.Armed e →
      InTime computed wait e ∨ (s.readable rfds).Nonempty ∨ s.Owed e

/-- If the loop sleeps and a timer that no thread owes a write for is overdue, by the time that
has passed from the computation of the wait to `select`, then `select` returns, and
`processTimeouts` takes all timers that are overdue. -/
def State.TakesOverdue (capacity : ℕ) (s : State π) : Prop :=
  ∀ rfds wait computed called, s.pc = .asleep rfds wait computed called →
    ∀ e, s.timers.Armed e → ¬ s.Owed e →
      e.deadline.micros + called.micros ≤ s.timers.clock.micros + computed.micros →
      ∃ s', run (step capacity) s [.selectReturns, .processTimeouts] = some s' ∧
        ∀ e', s'.timers.Armed e' → s'.timers.clock.micros ≤ e'.deadline.micros

/-! ## The invariant -/

/-- Each armed timer is seen, or announced by the pipe, which `rfds` holds, or owed. -/
def State.Covered (s : State π) (rfds : Finset ℕ) (seen : Entry π → Prop) : Prop :=
  s.wakeupFd ∈ rfds ∧ ∀ e, s.timers.Armed e → seen e ∨ (s.readable rfds).Nonempty ∨ s.Owed e

/-- The pipe is there, and the loop watches it for good. -/
structure State.Wired (s : State π) : Prop where
  pipe : s.pipe.isSome
  watched : s.wakeupFd ∈ s.watch.readFds
  persist : ∀ i a, s.watch.watchTable i = some a → (s.watch.events a).persist = true

/-- The timer that `calcNextTimeout` has read is due no later than `e`. -/
def SeenFirst (s : RilEvent.State π) (tev : Cell) (e : Entry π) : Prop :=
  tev ≠ .timerList ∧ (s.timeout tev).micros ≤ e.deadline.micros

/-- The timer that `calcNextTimeout` has read is on a list. -/
def Linked (s : RilEvent.State π) (tev : Cell) : Prop :=
  tev = .timerList ∨ ∃ n, tev = .event n ∧ s.links.next tev ≠ none

/-- What holds at each place of the loop. -/
def State.Place (s : State π) : Prop :=
  match s.pc with
  | .starting => ∀ i, s.watch.watchTable i = none
  | .adding => (∀ i, s.watch.watchTable i = none) ∧ s.pipe.isSome ∧
      (s.watch.events wakeupEvent).persist = true
  | .calculating rfds tev =>
      s.Wired ∧ s.Covered rfds (SeenFirst s.timers tev) ∧ Linked s.timers tev
  | .selecting rfds wait computed =>
      s.Wired ∧ s.Covered rfds (InTime computed wait) ∧ computed.micros ≤ s.timers.clock.micros
  | .asleep rfds wait computed called =>
      s.Wired ∧ s.Covered rfds (InTime computed wait) ∧ computed.micros ≤ called.micros ∧
        called.micros ≤ s.timers.clock.micros
  | .top | .selected _ | .expired _ | .firing _ => s.Wired
  | .ended => True

structure State.Inv (s : State π) : Prop where
  shows : ∃ l, s.timers.Shows l
  idle : (∀ readies, s.pc ≠ .firing readies) → s.timers.pc = .idle
  place : s.Place

theorem init_inv (now : TimeVal) : (State.init π now).Inv where
  shows := ⟨_, shows_init now⟩
  idle := fun _ => rfl
  place := fun _ => rfl

/-! ## The timers -/

section Timers

variable {s s' : RilEvent.State π} {l : Line π}

theorem tick_eq {now : TimeVal} (hs : RilEvent.step s (.tick now) = some s') :
    s.clock.micros ≤ now.micros ∧ s' = { s with clock := now } := by
  simp only [RilEvent.step, Option.ite_none_right_eq_some, Option.some.injEq] at hs
  exact ⟨hs.1, hs.2.symm⟩

/-- Only the new timer is armed by an addition, and what is on a list stays as it is. -/
theorem timerAdd_armed (h : s.Shows l) {n : ℕ} {param : π} {tv : TimeVal}
    (hs : RilEvent.step s (.timerAdd n param (some tv)) = some s') {e : Entry π}
    (he : s'.Armed e) : s.Armed e ∨ e.number = s.added.length := by
  obtain ⟨l', hl', hline⟩ := h.step hs
  rw [hl'.armed_iff] at he
  rw [h.armed_iff]
  obtain ⟨timers, pending, -, rfl, -⟩ := h
  cases hline with
  | add _ _ _ _ deadline _ =>
      rcases (List.mem_orderedInsert Entry.NoLater).1 he with rfl | he
      · exact .inr rfl
      · exact .inl he

theorem timerAdd_linked (h : s.Shows l) {n : ℕ} {param : π} {tv : TimeVal}
    (hs : RilEvent.step s (.timerAdd n param (some tv)) = some s') {m : ℕ}
    (hm : s.links.next (.event m) ≠ none) :
    s'.links.next (.event m) ≠ none ∧ s'.timeout (.event m) = s.timeout (.event m) := by
  obtain ⟨timers, pending, hholds, -, -⟩ := h
  simp only [RilEvent.step, Option.ite_none_right_eq_some] at hs
  obtain ⟨hn, hadd⟩ := hs
  have hmem : Cell.event m ∈ timers ++ pending := by
    by_contra hnot
    exact hm (hholds.unlinked m hnot)
  cases hdeadline : timeradd s.clock tv with
  | none => simp [rilTimerAdd, hdeadline, hholds.timerRing.next_sentinel] at hadd
  | some deadline =>
      obtain ⟨t, ht, hholds', -, -, -, hentry⟩ := rilTimerAdd_spec hholds hn param hdeadline
      cases Option.some.inj (ht.symm.trans hadd)
      constructor
      · rcases List.mem_append.1 hmem with hmem | hmem
        · apply hholds'.timerRing.next_isSome
          rw [← List.takeWhile_append_dropWhile
            (p := fun c => timercmpLt (s.timeout c) deadline) (l := timers)] at hmem
          simp only [List.mem_append, List.mem_cons] at hmem ⊢
          tauto
        · exact hholds'.pendingRing.next_isSome hmem
      · have hne : Cell.event m ≠ .event n := by
          rintro heq
          exact hm (heq ▸ hn)
        have hkept := congrFun hentry (.event m)
        rw [Function.update_of_ne hne] at hkept
        exact congrArg Entry.deadline hkept

/-- The first timer that `calcNextTimeout` reads is due first. -/
theorem first_seen (h : s.Shows l) {tev : Cell} (hfirst : s.links.next .timerList = some tev) :
    Linked s tev ∧ ∀ e, s.Armed e → SeenFirst s tev e := by
  have harmed := h.armed_iff
  obtain ⟨timers, pending, hholds, rfl, hord⟩ := h
  rw [hholds.timerRing.next_sentinel] at hfirst
  have hsorted : (timers.map s.entry).Pairwise Entry.NoLater :=
    (List.pairwise_append.1 hord.sorted).2.1
  cases timers with
  | nil =>
      refine ⟨.inl (Option.some.inj hfirst).symm, fun e he => ?_⟩
      exact absurd ((harmed e).1 he) List.not_mem_nil
  | cons c timers =>
      obtain rfl : c = tev := Option.some.inj hfirst
      have hne : c ≠ .timerList := hholds.timerRing.ne_sentinel List.mem_cons_self
      constructor
      · cases c with
        | timerList => exact absurd rfl hne
        | pendingList =>
            exact absurd List.mem_cons_self (hholds.apart (List.mem_cons_of_mem _ List.mem_cons_self))
        | event n => exact .inr ⟨n, rfl, hholds.timerRing.next_isSome List.mem_cons_self⟩
      · intro e he
        refine ⟨hne, ?_⟩
        rcases List.mem_cons.1 ((harmed e).1 he) with rfl | he
        · exact Nat.le_refl _
        · exact (List.pairwise_cons.1 hsorted).1 e he

/-- A wait that is computed from it does not go beyond what it was seen for. -/
theorem SeenFirst.inTime {tev : Cell} {e : Entry π} (h : SeenFirst s tev e) :
    InTime s.clock (nextWait s tev) e := by
  obtain ⟨hne, hle⟩ := h
  rw [nextWait, if_neg hne]
  refine ⟨_, rfl, ?_⟩
  by_cases hfuture : s.clock.micros < (s.timeout tev).micros
  · rw [waitUntil_future hfuture, (timersub_spec hfuture).2]
    omega
  · rw [waitUntil_past hfuture]
    show (s.clock.micros : ℤ) + 0 ≤ _
    omega

/-- `processTimeouts` leaves no timer that is overdue. -/
theorem processTimeouts_takes (h : s.Shows l) (hpc : s.pc = .idle) :
    ∃ s', RilEvent.step s .processTimeouts = some s' ∧ s'.clock = s.clock ∧
      ∀ e, s'.Armed e → s.clock.micros ≤ e.deadline.micros := by
  obtain ⟨timers, pending, hholds, hline, hord⟩ := id h
  obtain ⟨s', hs⟩ := Option.isSome_iff_exists.1 (hholds.live.processTimeouts hpc)
  obtain ⟨l', hl', hstep⟩ := h.step hs
  refine ⟨s', hs, ?_, fun e he => ?_⟩
  · rw [← hl'.clock_eq, ← h.clock_eq]
    cases hstep with
    | expire => rfl
  · rw [hl'.armed_iff] at he
    rw [← h.clock_eq]
    have hsorted : l.timers.Pairwise Entry.NoLater := (List.pairwise_append.1 hord.sorted).2.1
    cases hstep with
    | expire =>
        have hdrop := (takeWhile_eq_filter (p := Entry.due l.clock) hsorted (by
          intro a b hab hb
          rw [Entry.due_iff] at hb ⊢
          exact lt_of_le_of_lt hab hb)).2
        rw [hdrop] at he
        have hdue := (List.mem_filter.1 he).2
        by_contra hlt
        rw [(Entry.due_iff l.clock e).2 (Nat.lt_of_not_le hlt)] at hdue
        exact Bool.false_ne_true hdue

end Timers

/-! ## The other threads -/

/-- The loop stays where it is, and what it relies on does: the clock does not go back, what is on
a list keeps its deadline, and no announcement is lost. -/
structure Passive (s s' : State π) : Prop where
  pc : s'.pc = s.pc
  watch : s'.watch = s.watch
  pipe : s.pipe.isSome → s'.pipe.isSome
  clock : s.timers.clock.micros ≤ s'.timers.clock.micros
  linked : ∀ n, s.timers.links.next (.event n) ≠ none →
    s'.timers.links.next (.event n) ≠ none ∧
      s'.timers.timeout (.event n) = s.timers.timeout (.event n)
  covered : ∀ rfds seen, s.pipe.isSome → s.Covered rfds seen → s'.Covered rfds seen

variable {s s' : State π}

theorem Passive.wired (h : Passive s s') (hs : s.Wired) : s'.Wired where
  pipe := h.pipe hs.pipe
  watched := by
    rw [State.wakeupFd, h.watch]
    exact hs.watched
  persist := by
    rw [h.watch]
    exact hs.persist

theorem Passive.seenFirst (h : Passive s s') {tev : Cell} (hlinked : Linked s.timers tev) :
    Linked s'.timers tev ∧ SeenFirst s'.timers tev = SeenFirst s.timers tev := by
  rcases hlinked with rfl | ⟨n, rfl, hn⟩
  · refine ⟨.inl rfl, ?_⟩
    funext e
    simp [SeenFirst]
  · obtain ⟨hn', htimeout⟩ := h.linked n hn
    refine ⟨.inr ⟨n, rfl, hn'⟩, ?_⟩
    funext e
    rw [SeenFirst, SeenFirst, htimeout]

theorem Passive.place (h : Passive s s') (hs : s.Place) : s'.Place := by
  unfold State.Place at hs ⊢
  rw [h.pc]
  cases hpc : s.pc with
  | starting =>
      rw [hpc] at hs
      dsimp only at hs ⊢
      rw [h.watch]
      exact hs
  | adding =>
      rw [hpc] at hs
      dsimp only at hs ⊢
      rw [h.watch]
      exact ⟨hs.1, h.pipe hs.2.1, hs.2.2⟩
  | calculating rfds tev =>
      rw [hpc] at hs
      obtain ⟨hwired, hcovered, hlinked⟩ := hs
      obtain ⟨hlinked', hseen⟩ := h.seenFirst hlinked
      refine ⟨h.wired hwired, ?_, hlinked'⟩
      rw [hseen]
      exact h.covered rfds _ hwired.pipe hcovered
  | selecting rfds wait computed =>
      rw [hpc] at hs
      obtain ⟨hwired, hcovered, hle⟩ := hs
      exact ⟨h.wired hwired, h.covered rfds _ hwired.pipe hcovered, hle.trans h.clock⟩
  | asleep rfds wait computed called =>
      rw [hpc] at hs
      obtain ⟨hwired, hcovered, hle, hle'⟩ := hs
      exact ⟨h.wired hwired, h.covered rfds _ hwired.pipe hcovered, hle, hle'.trans h.clock⟩
  | top => exact h.wired (by rw [hpc] at hs; exact hs)
  | selected => exact h.wired (by rw [hpc] at hs; exact hs)
  | expired => exact h.wired (by rw [hpc] at hs; exact hs)
  | firing => exact h.wired (by rw [hpc] at hs; exact hs)
  | ended => trivial

/-- While the clock goes on. -/
theorem passive_tick {now : TimeVal} {timers : RilEvent.State π}
    (hs : RilEvent.step s.timers (.tick now) = some timers) :
    Passive s { s with timers := timers } := by
  obtain ⟨hnow, rfl⟩ := tick_eq hs
  refine ⟨rfl, rfl, id, hnow, fun n hn => ⟨hn, rfl⟩, fun rfds seen _ h => ?_⟩
  exact h

/-- A thread that adds a timer owes a write for it from then on. -/
theorem passive_request (h : s.Inv) {thread n : ℕ} {param : π} {tv : TimeVal}
    {timers : RilEvent.State π} (hidle : s.owes thread = none)
    (hs : RilEvent.step s.timers (.timerAdd n param (some tv)) = some timers) :
    Passive s { s with
      timers := timers
      owes := Function.update s.owes thread (some s.timers.added.length) } := by
  obtain ⟨l, hl⟩ := h.shows
  refine ⟨rfl, rfl, id, ?_, fun m hm => timerAdd_linked hl hs hm, ?_⟩
  · obtain ⟨l', hl', hline⟩ := hl.step hs
    show s.timers.clock.micros ≤ timers.clock.micros
    rw [← hl.clock_eq, ← hl'.clock_eq]
    cases hline with
    | add => exact Nat.le_refl _
  · rintro rfds seen - ⟨hfd, hcovered⟩
    refine ⟨hfd, fun e he => ?_⟩
    rcases timerAdd_armed hl hs he with harmed | hnew
    · rcases hcovered e harmed with hseen | hready | ⟨t, ht⟩
      · exact .inl hseen
      · exact .inr (.inl hready)
      · refine .inr (.inr ⟨t, ?_⟩)
        have hne : t ≠ thread := by
          rintro rfl
          exact nomatch hidle.symm.trans ht
        show Function.update s.owes thread _ t = _
        rw [Function.update_of_ne hne]
        exact ht
    · refine .inr (.inr ⟨thread, ?_⟩)
      show Function.update s.owes thread _ thread = _
      rw [Function.update_self, hnew]

theorem triggerEvLoop_frame {capacity : ℕ} {b : Bool} (hs : triggerEvLoop capacity s b = some s') :
    s' = { s with pipe := s'.pipe } ∧ (s.pipe.isSome → s'.pipe.isSome) ∧
      (b = false → s.pipe.isSome → 0 < s'.pipe.getD 0) := by
  cases b with
  | true =>
      cases Option.some.inj hs
      exact ⟨rfl, id, fun h => nomatch h⟩
  | false =>
      rw [triggerEvLoop, if_neg Bool.false_ne_true] at hs
      cases hpipe : s.pipe with
      | none =>
          rw [hpipe] at hs
          cases Option.some.inj hs
          exact ⟨rfl, fun h => absurd h (by simp), fun _ h => absurd h (by simp)⟩
      | some bytes =>
          simp only [hpipe, Option.ite_none_right_eq_some, Option.some.injEq] at hs
          obtain ⟨-, rfl⟩ := hs
          exact ⟨rfl, fun _ => rfl, fun _ _ => Nat.succ_pos bytes⟩

/-- The write announces all timers that have been added. -/
theorem passive_trigger {capacity thread : ℕ} {t : State π}
    (hs : triggerEvLoop capacity s false = some t) :
    Passive s { t with owes := Function.update t.owes thread none } := by
  obtain ⟨hframe, hsome, hpos⟩ := triggerEvLoop_frame hs
  rw [hframe]
  refine ⟨rfl, rfl, hsome, Nat.le_refl _, fun m hm => ⟨hm, rfl⟩, ?_⟩
  rintro rfds seen hpipe ⟨hfd, -⟩
  refine ⟨hfd, fun e _ => .inr (.inl ⟨s.wakeupFd, ?_⟩)⟩
  have hpos' : 0 < t.pipe.getD 0 := hpos rfl hpipe
  show s.wakeupFd ∈ if 0 < t.pipe.getD 0 then _ else ∅
  rw [if_pos hpos', Finset.mem_filter]
  exact ⟨hfd, rfl⟩

/-! ## The watch table -/

/-- The scan of a table whose events stay leaves it as it is. -/
theorem scanReadies_persist {w : WatchTable.State}
    (h : ∀ i a, w.watchTable i = some a → (w.events a).persist = true) (rfds : Finset ℕ)
    (is : List (Fin WatchTable.maxFdEvents)) (n : ℕ) :
    (WatchTable.scanReadies rfds is n w).1 = w := by
  induction is generalizing n with
  | nil => rfl
  | cons i is ih =>
      rw [WatchTable.scanReadies]
      split
      · rfl
      · split
        · rename_i rev hrev
          split
          · rw [h i rev hrev, if_pos rfl]
            exact ih (n - 1)
          · exact ih n
        · exact ih n

/-- The wake-up event gets a slot of the empty table. -/
theorem wired_add {w : WatchTable.State} (hempty : ∀ i, w.watchTable i = none)
    (hpersist : (w.events wakeupEvent).persist = true) :
    let w' := WatchTable.rilEventAdd w wakeupEvent
    w'.fd wakeupEvent ∈ w'.readFds ∧
      ∀ i a, w'.watchTable i = some a → (w'.events a).persist = true := by
  rw [WatchTable.rilEventAdd_eq]
  cases hfind : (List.finRange WatchTable.maxFdEvents).find? fun i => w.watchTable i = none with
  | none =>
      have hfull := List.find?_eq_none.1 hfind ⟨0, by decide⟩ (List.mem_finRange _)
      exact absurd (hempty ⟨0, by decide⟩) (by simpa using hfull)
  | some i =>
      dsimp only
      constructor
      · rw [WatchTable.store_fd]
        exact Finset.mem_insert_self _ _
      · intro j a ha
        rcases WatchTable.store_eq_some_iff.1 ha with ⟨-, rfl⟩ | ⟨-, hold⟩
        · show (Function.update w.events wakeupEvent _ wakeupEvent).persist = true
          rw [Function.update_self]
          exact hpersist
        · exact nomatch (hempty j).symm.trans hold

/-! ## The loop -/

/-- The timer service takes its own steps. -/
theorem State.Inv.timerStep (h : s.Inv) {e : RilEvent.Event π} {timers : RilEvent.State π}
    (hs : RilEvent.step s.timers e = some timers) : ∃ l, timers.Shows l := by
  obtain ⟨l, hl⟩ := h.shows
  obtain ⟨l', hl', -⟩ := hl.step hs
  exact ⟨l', hl'⟩

/-- What a step of another thread keeps. -/
theorem State.Inv.passive (h : s.Inv) (hp : Passive s s') (hshows : ∃ l, s'.timers.Shows l)
    (hpc : s'.timers.pc = s.timers.pc) : s'.Inv where
  shows := hshows
  idle := by
    rw [hp.pc, hpc]
    exact h.idle
  place := hp.place h.place

/-- In the loop, but not in `firePending`, the pipe stays wired. -/
theorem State.Inv.goto (h : s.Inv) {pc : Pc} (hidle : s.timers.pc = .idle)
    (hplace : State.Place { s with pc := pc }) : State.Inv { s with pc := pc } where
  shows := h.shows
  idle := fun _ => hidle
  place := hplace

theorem rilTimerAdd_pc {s s' : RilEvent.State π} {n : ℕ} {param : π} {tv : TimeVal}
    (hs : RilEvent.step s (.timerAdd n param (some tv)) = some s') : s'.pc = s.pc := by
  simp only [RilEvent.step, Option.ite_none_right_eq_some, rilTimerAdd, bind, Option.bind_eq_some_iff,
    Option.some.injEq] at hs
  obtain ⟨-, _, -, _, -, _, -, _, -, rfl⟩ := hs
  rfl

theorem fireNext_inv (h : s.Inv) {readies : List ℕ} (hpc : s.pc = .firing readies)
    (hs : EventLoop.fireNext s readies = some s') : s'.Inv := by
  have hwired : s.Wired := by
    have hplace := h.place
    rw [State.Place, hpc] at hplace
    exact hplace
  unfold EventLoop.fireNext at hs
  cases htimers : s.timers.pc with
  | firing ev =>
      rw [htimers] at hs
      obtain ⟨timers, htimers', rfl⟩ := Option.map_eq_some_iff.1 hs
      refine ⟨h.timerStep htimers', fun hne => absurd hpc (hne readies), ?_⟩
      show State.Place { s with timers := timers }
      rw [State.Place]
      dsimp only
      rw [hpc]
      exact ⟨hwired.pipe, hwired.watched, hwired.persist⟩
  | inCallback next =>
      rw [htimers] at hs
      exact nomatch hs
  | idle =>
      rw [htimers] at hs
      cases readies with
      | nil =>
          cases Option.some.inj hs
          exact h.goto htimers ⟨hwired.pipe, hwired.watched, hwired.persist⟩
      | cons ev rest =>
          dsimp only at hs
          split at hs
          · cases Option.some.inj hs
            unfold readWakeup
            split
            · refine ⟨h.shows, fun _ => htimers, ?_⟩
              rw [State.Place]
              dsimp only
              rw [hpc]
              exact ⟨rfl, hwired.watched, hwired.persist⟩
            · exact h.goto htimers ⟨hwired.pipe, hwired.watched, hwired.persist⟩
          · cases Option.some.inj hs
            exact h.goto htimers ⟨hwired.pipe, hwired.watched, hwired.persist⟩

/-- **Every step keeps the invariant.** -/
theorem step_inv {capacity : ℕ} {e : Event π} (h : s.Inv) (hs : step capacity s e = some s') :
    s'.Inv := by
  have hplace := h.place
  have hidle := h.idle
  obtain ⟨l, hl⟩ := h.shows
  unfold State.Place at hplace
  cases e with
  | tick now =>
      obtain ⟨timers, htimers, rfl⟩ := Option.map_eq_some_iff.1 hs
      apply h.passive (passive_tick htimers) (h.timerStep htimers)
      rw [(tick_eq htimers).2]
  | request thread n param tv =>
      simp only [step, Option.ite_none_right_eq_some, Option.map_eq_some_iff] at hs
      obtain ⟨howes, timers, htimers, rfl⟩ := hs
      exact h.passive (passive_request h howes htimers) (h.timerStep htimers)
        (rilTimerAdd_pc htimers)
  | trigger thread =>
      simp only [step, Option.ite_none_left_eq_some, Option.map_eq_some_iff] at hs
      obtain ⟨-, t, ht, rfl⟩ := hs
      have hframe := (triggerEvLoop_frame ht).1
      refine h.passive (passive_trigger ht) ?_ ?_
      · rw [hframe]
        exact h.shows
      · rw [hframe]
  | openPipe fd =>
      rw [step] at hs
      split at hs
      · rename_i hpc
        cases Option.some.inj hs
        rw [hpc] at hplace hidle
        refine ⟨⟨l, hl⟩, fun _ => hidle (by simp), hplace, rfl, ?_⟩
        simp [WatchTable.rilEventSet]
      · exact nomatch hs
  | pipeFails =>
      rw [step] at hs
      split at hs
      · rename_i hpc
        cases Option.some.inj hs
        exact h.goto (hidle (by simp [hpc])) trivial
      · exact nomatch hs
  | addWakeup stored =>
      rw [step] at hs
      split at hs
      · rename_i hpc
        obtain ⟨t, ht, rfl⟩ := Option.map_eq_some_iff.1 hs
        obtain ⟨hframe, hsome, -⟩ := triggerEvLoop_frame ht
        rw [hpc] at hplace hidle
        obtain ⟨hempty, hpipe, hpersist⟩ := hplace
        obtain ⟨hwatched, hpersist'⟩ := wired_add hempty hpersist
        rw [hframe]
        exact ⟨⟨l, hl⟩, fun _ => hidle (by simp), hsome hpipe, hwatched, hpersist'⟩
      · exact nomatch hs
  | readFirst =>
      rw [step] at hs
      split at hs
      · rename_i hpc
        obtain ⟨tev, htev, rfl⟩ := Option.map_eq_some_iff.1 hs
        rw [hpc] at hplace hidle
        obtain ⟨hlinked, hseen⟩ := first_seen hl htev
        apply h.goto (hidle (by simp))
        exact ⟨⟨hplace.pipe, hplace.watched, hplace.persist⟩,
          ⟨hplace.watched, fun e he => .inl (hseen e he)⟩, hlinked⟩
      · exact nomatch hs
  | computeWait =>
      rw [step] at hs
      split at hs
      · rename_i hpc
        cases Option.some.inj hs
        rw [hpc] at hplace hidle
        obtain ⟨hwired, ⟨hfd, hcovered⟩, -⟩ := hplace
        apply h.goto (hidle (by simp))
        refine ⟨⟨hwired.pipe, hwired.watched, hwired.persist⟩, ⟨hfd, fun e he => ?_⟩, Nat.le_refl _⟩
        exact (hcovered e he).imp_left SeenFirst.inTime
      · exact nomatch hs
  | callSelect =>
      rw [step] at hs
      split at hs
      · rename_i hpc
        cases Option.some.inj hs
        rw [hpc] at hplace hidle
        obtain ⟨hwired, hcovered, hle⟩ := hplace
        apply h.goto (hidle (by simp))
        exact ⟨⟨hwired.pipe, hwired.watched, hwired.persist⟩, hcovered, hle, Nat.le_refl _⟩
      · exact nomatch hs
  | selectReturns =>
      rw [step] at hs
      split at hs
      · rename_i hpc
        simp only [Option.ite_none_right_eq_some, Option.some.injEq] at hs
        obtain ⟨-, rfl⟩ := hs
        rw [hpc] at hplace hidle
        apply h.goto (hidle (by simp))
        exact ⟨hplace.1.pipe, hplace.1.watched, hplace.1.persist⟩
      · exact nomatch hs
  | selectInterrupted =>
      rw [step] at hs
      split at hs
      · rename_i hpc
        cases Option.some.inj hs
        rw [hpc] at hplace hidle
        apply h.goto (hidle (by simp))
        exact ⟨hplace.1.pipe, hplace.1.watched, hplace.1.persist⟩
      · exact nomatch hs
  | selectFails =>
      rw [step] at hs
      split at hs
      · rename_i hpc
        cases Option.some.inj hs
        exact h.goto (hidle (by simp [hpc])) trivial
      · exact nomatch hs
  | processTimeouts =>
      rw [step] at hs
      split at hs
      · rename_i hpc
        obtain ⟨timers, htimers, rfl⟩ := Option.map_eq_some_iff.1 hs
        rw [hpc] at hplace
        refine ⟨h.timerStep htimers, fun _ => ?_, hplace.pipe, hplace.watched, hplace.persist⟩
        obtain ⟨timers', pending', hholds, -, -⟩ := hl
        obtain ⟨links, hlinks, -⟩ := processTimeouts_spec hholds
        simp only [RilEvent.step, Option.ite_none_right_eq_some] at htimers
        cases Option.some.inj (hlinks.symm.trans htimers.2)
        exact htimers.1
      · exact nomatch hs
  | processReadReadies =>
      rw [step] at hs
      split at hs
      · rename_i hpc
        obtain ⟨timers, htimers, rfl⟩ := Option.map_eq_some_iff.1 hs
        rw [hpc] at hplace
        refine ⟨h.timerStep htimers, fun hne => absurd rfl (hne _), ?_⟩
        show State.Wired _
        rw [WatchTable.processReadReadies, scanReadies_persist hplace.persist]
        exact ⟨hplace.pipe, hplace.watched, hplace.persist⟩
      · exact nomatch hs
  | fireNext =>
      rw [step] at hs
      split at hs
      · rename_i hpc
        exact fireNext_inv h hpc hs
      · exact nomatch hs
  | callbackRequests n param tv =>
      rw [step] at hs
      split at hs
      · rename_i hpc htpc
        obtain ⟨timers, htimers, rfl⟩ := Option.map_eq_some_iff.1 hs
        rw [hpc] at hplace
        refine ⟨h.timerStep htimers, fun hne => absurd hpc (hne _), ?_⟩
        rw [State.Place]
        dsimp only
        rw [hpc]
        exact ⟨hplace.pipe, hplace.watched, hplace.persist⟩
      · exact nomatch hs
  | callbackReturns =>
      rw [step] at hs
      split at hs
      · rename_i hpc
        obtain ⟨timers, htimers, rfl⟩ := Option.map_eq_some_iff.1 hs
        rw [hpc] at hplace
        refine ⟨h.timerStep htimers, fun hne => absurd hpc (hne _), ?_⟩
        rw [State.Place]
        dsimp only
        rw [hpc]
        exact ⟨hplace.pipe, hplace.watched, hplace.persist⟩
      · exact nomatch hs

/-! ## Main results -/

theorem inv_always (capacity : ℕ) (now : TimeVal) (es : List (Event π)) :
    Always (step capacity) State.Inv (State.init π now) es :=
  always_of_step (fun _ _ _ => step_inv) (init_inv now) es

theorem State.Inv.noLostWakeup (h : s.Inv) : s.NoLostWakeup := by
  intro rfds wait computed called hpc e he
  have hplace := h.place
  unfold State.Place at hplace
  rw [hpc] at hplace
  exact hplace.2.1.2 e he

/-- `select` returns when the timer was seen by the wait, and when it was announced. -/
theorem State.Inv.takesOverdue (h : s.Inv) (capacity : ℕ) : s.TakesOverdue capacity := by
  intro rfds wait computed called hpc e he howed hover
  have hplace := h.place
  unfold State.Place at hplace
  rw [hpc] at hplace
  obtain ⟨-, -, hcomputed, hcalled⟩ := hplace
  obtain ⟨l, hl⟩ := h.shows
  have hidle := h.idle (by simp [hpc])
  have hreturns : (s.readable rfds).Nonempty ∨ waitOver s.timers.clock called wait := by
    rcases h.noLostWakeup rfds wait computed called hpc e he with ⟨w, rfl, hw⟩ | hready | howes
    · refine .inr ?_
      show (called.micros : ℤ) + w.micros ≤ s.timers.clock.micros
      omega
    · exact .inl hready
    · exact absurd howes howed
  obtain ⟨timers, htimers, hclock, htaken⟩ := processTimeouts_takes hl hidle
  refine ⟨{ s with timers := timers, pc := .expired (s.readable rfds) }, ?_, ?_⟩
  · simp [run, step, hpc, hreturns, htimers]
  · intro e' he'
    show timers.clock.micros ≤ _
    rw [hclock]
    exact htaken e' he'

/-- **No wake-up is lost**, in any order of the steps of the loop, of the threads that add timers,
and of the callbacks. -/
theorem no_lost_wakeup (capacity : ℕ) (now : TimeVal) (es : List (Event π)) :
    Always (step capacity) State.NoLostWakeup (State.init π now) es :=
  (inv_always capacity now es).mono fun _ h => h.noLostWakeup

/-- A thread adds a timer after the loop has looked for the first one: the loop goes to sleep
without an end, and the byte of the thread wakes it. -/
example :
    let es : List (Event Unit) := [.openPipe 3, .addWakeup true, .readFirst,
      .request 7 0 () ⟨5, 0, by decide⟩, .computeWait, .callSelect]
    ((run (step 1) (State.init Unit .zero) es).bind (step 1 · .selectReturns)).isNone ∧
      ((run (step 1) (State.init Unit .zero) (es ++ [.trigger 7])).bind
        (step 1 · .selectReturns)).isSome := by
  decide

/-- **An overdue timer ends the sleep**, and `processTimeouts` takes it. -/
theorem overdue_taken (capacity : ℕ) (now : TimeVal) (es : List (Event π)) :
    Always (step capacity) (State.TakesOverdue capacity) (State.init π now) es :=
  (inv_always capacity now es).mono fun _ h => h.takesOverdue capacity

end EventLoop
