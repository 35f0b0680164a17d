/-
# How long the event loop waits

`calcNextTimeout` looks at the first timer of the list only, and subtracts the clock from its
deadline.  The loop hands the difference to `select`.

* `calcNextTimeout` : the wait, or that there is no timer;
* `State.NeverOversleeps` : the wait ends at the earliest deadline of the armed timers;
* `never_oversleeps` : it does in every run of the timer service.
-/
import Ct07.Event.Timers

open PartialStep LinkedRing

namespace RilEvent

/-! ## Model -/

/-- The `struct timeval` that `calcNextTimeout` fills in. -/
structure Wait where
  sec : ℤ
  usec : ℤ
  deriving DecidableEq

def Wait.micros (w : Wait) : ℤ := w.sec * 1000000 + w.usec

/-- Normalised and not negative. -/
def Wait.Normalised (w : Wait) : Prop := 0 ≤ w.sec ∧ 0 ≤ w.usec ∧ w.usec < 1000000

/-- `timersub` -/
def timersub (a b : TimeVal) : Wait :=
  let sec : ℤ := a.sec - b.sec
  let usec : ℤ := a.usec - b.usec
  if usec < 0 then ⟨sec - 1, usec + 1000000⟩ else ⟨sec, usec⟩

/-- The wait for one deadline; a timer that has expired is not waited for. -/
def waitUntil (deadline now : TimeVal) : Wait :=
  if timercmpGt deadline now then timersub deadline now else ⟨0, 0⟩

variable {π : Type}

/-- `calcNextTimeout`: the wait, or `none` for the result -1.  It fails on a null link. -/
def calcNextTimeout (s : State π) : Option (Option Wait) := do
  let tev ← s.links.next .timerList
  -- sorted list, so calc based on first node
  if tev = .timerList then some none
  else some (some (waitUntil (s.timeout tev) s.clock))

/-- A timer was added, and `processTimeouts` has not taken it yet. -/
def State.Armed (s : State π) (e : Entry π) : Prop :=
  e ∈ s.added ∧ e ∉ s.fired.map Fired.entry ∧ e ∉ s.pendingEntries

/-- The wait ends at the earliest deadline of the armed timers, or is zero when that is not in the
future; without armed timers there is none. -/
def State.NeverOversleeps (s : State π) : Prop :=
  ∃ result, calcNextTimeout s = some result ∧ (result = none ↔ ∀ e, ¬ s.Armed e) ∧
    ∀ wait ∈ result, wait.Normalised ∧
      ∃ e, s.Armed e ∧ (∀ e', s.Armed e' → e.deadline.micros ≤ e'.deadline.micros) ∧
        if s.clock.micros < e.deadline.micros then
          (s.clock.micros : ℤ) + wait.micros = e.deadline.micros
        else wait = ⟨0, 0⟩

/-! ## Times -/

/-- The borrow of a second. -/
theorem timersub_spec {a b : TimeVal} (h : b.micros < a.micros) :
    (timersub a b).Normalised ∧ (b.micros : ℤ) + (timersub a b).micros = a.micros := by
  have ha := a.usec_lt
  have hb := b.usec_lt
  unfold TimeVal.micros at h ⊢
  unfold timersub Wait.Normalised Wait.micros
  dsimp only
  split
  · refine ⟨⟨?_, ?_, ?_⟩, ?_⟩ <;> dsimp only <;> omega
  · refine ⟨⟨?_, ?_, ?_⟩, ?_⟩ <;> dsimp only <;> omega

theorem waitUntil_future {deadline now : TimeVal} (h : now.micros < deadline.micros) :
    waitUntil deadline now = timersub deadline now := by
  rw [waitUntil, if_pos ((timercmpGt_iff _ _).2 h)]

theorem waitUntil_past {deadline now : TimeVal} (h : ¬ now.micros < deadline.micros) :
    waitUntil deadline now = ⟨0, 0⟩ := by
  rw [waitUntil, if_neg (mt (timercmpGt_iff _ _).1 h)]

/-! ## Armed timers -/

/-- No timer is accounted for twice. -/
theorem Line.Ordered.nodup {l : Line π} (h : l.Ordered) : l.all.Nodup := by
  have hadded : l.added.Nodup := by
    apply List.Nodup.of_map Entry.number
    rw [h.numbered]
    exact List.nodup_range
  exact h.accounted.nodup_iff.2 hadded

/-- The armed timers are those of the timer list. -/
theorem State.Shows.armed_iff {s : State π} {l : Line π} (h : s.Shows l) (e : Entry π) :
    s.Armed e ↔ e ∈ l.timers := by
  have hord := h.ordered
  have hmem : e ∈ l.added ↔ e ∈ l.fired.map Fired.entry ++ l.pending ∨ e ∈ l.timers := by
    rw [← hord.accounted.mem_iff, Line.all, List.mem_append]
  have hapart := (List.nodup_append.1 hord.nodup).2.2
  rw [State.Armed, h.pendingEntries_eq]
  obtain ⟨timers, pending, -, rfl, -⟩ := h
  constructor
  · rintro ⟨hadded, hfired, hpending⟩
    refine (hmem.1 hadded).resolve_left fun hgone => ?_
    exact (List.mem_append.1 hgone).elim hfired hpending
  · intro htimers
    refine ⟨hmem.2 (.inr htimers), fun hfired => ?_, fun hpending => ?_⟩
    · exact hapart e (List.mem_append_left _ hfired) e htimers rfl
    · exact hapart e (List.mem_append_right _ hpending) e htimers rfl

/-- `calcNextTimeout` takes the first timer of the list. -/
theorem State.Shows.calcNextTimeout_eq {s : State π} {l : Line π} (h : s.Shows l) :
    calcNextTimeout s = some (l.timers.head?.map fun e => waitUntil e.deadline s.clock) := by
  obtain ⟨timers, pending, hholds, rfl, -⟩ := h
  rw [calcNextTimeout, hholds.timerRing.next_sentinel]
  cases timers with
  | nil => rfl
  | cons c timers =>
      have hne : c ≠ .timerList := hholds.timerRing.ne_sentinel (by simp)
      show (if c = .timerList then _ else _) = _
      rw [if_neg hne]
      rfl

/-! ## Main result -/

theorem State.Shows.neverOversleeps {s : State π} {l : Line π} (h : s.Shows l) :
    s.NeverOversleeps := by
  refine ⟨_, h.calcNextTimeout_eq, ?_⟩
  simp only [h.armed_iff]
  have hsorted : l.timers.Pairwise Entry.NoLater :=
    (List.pairwise_append.1 h.ordered.sorted).2.1
  cases htimers : l.timers with
  | nil => simp
  | cons e timers =>
      rw [htimers] at hsorted
      have hearliest : ∀ e' ∈ e :: timers, e.deadline.micros ≤ e'.deadline.micros := by
        intro e' he'
        rcases List.mem_cons.1 he' with rfl | he'
        · exact Nat.le_refl _
        · exact (List.pairwise_cons.1 hsorted).1 e' he'
      constructor
      · exact iff_of_false (by simp) fun hnone => hnone e List.mem_cons_self
      · rintro wait hwait
        have heq : waitUntil e.deadline s.clock = wait := Option.some.inj hwait
        by_cases hfuture : s.clock.micros < e.deadline.micros
        · obtain ⟨hnormal, hsum⟩ := timersub_spec hfuture
          rw [← waitUntil_future hfuture, heq] at hnormal hsum
          refine ⟨hnormal, e, List.mem_cons_self, hearliest, ?_⟩
          rw [if_pos hfuture]
          exact hsum
        · rw [waitUntil_past hfuture] at heq
          refine ⟨heq ▸ ⟨Int.le_refl 0, Int.le_refl 0, by decide⟩, e, List.mem_cons_self,
            hearliest, ?_⟩
          rw [if_neg hfuture]
          exact heq.symm

end RilEvent
