/-
# The wake lock and its timeouts

An incoming event grabs a wake lock, which is released when the event has been delivered,
and at the latest when a timeout fires.  The code keeps a count of the grabs, the kernel's
lock, and a pointer to the record of the latest timeout; an earlier timeout that is still
in the timer list is cancelled by a mark in its record.

Here each of the three operations is one event; `WakeTimeout` takes them apart.

Main results: `wakeLock_accounted`, and for a grab whose timeout cannot be created
`failedGrab_atomic_iff`.
-/
import Ct07.Lib.Run
import Ct07.Lib.Word
import Mathlib.Logic.Function.Basic
import Mathlib.Logic.ExistsUnique

open PartialStep

namespace Ril.WakeLock

/-! ## State -/

/-- The `UserCallbackInfo` of an armed timeout. -/
structure Record where
  /-- `userParam` is not null -/
  cancelled : Bool
  /-- the grab that armed it -/
  grab : ℕ
  deriving DecidableEq

/-- `grabs` is a record beside the code's data. -/
structure State where
  /-- `s_wakelock_count` -/
  count : ℤ
  /-- the kernel's wake lock -/
  held : Bool
  /-- `s_last_wake_timeout_info` -/
  last : Option ℕ
  /-- the timeouts in the timer list, by the address of their record -/
  armed : ℕ → Option Record
  grabs : ℕ

def State.init : State := ⟨0, false, none, fun _ => none, 0⟩

/-! ## Operations -/

/-- `s_last_wake_timeout_info->userParam = (void *)1`, unless the pointer is null; `none` when
the record has been freed. -/
def markLast (s : State) : Option State :=
  match s.last with
  | none => some s
  | some p =>
      (s.armed p).map fun r =>
        { s with armed := Function.update s.armed p (some { r with cancelled := true }) }

/-- `grabPartialWakeLock`.  `created` is the record that `internalRequestTimedCallback`
answers. -/
def grabPartialWakeLock (version : ℤ) (s : State) (created : Option ℕ) : Option State :=
  if version ≥ 13 then
    match created with
    | none => some { s with held := false }
    | some p => do
        let count ← Word.checkedInt32 (s.count + 1)
        let s := { s with
          held := true
          count := count
          armed := Function.update s.armed p (some ⟨false, s.grabs⟩)
          grabs := s.grabs + 1 }
        let s ← markLast s
        some { s with last := some p }
  else some { s with held := true }

def releaseWakeLock (version : ℤ) (s : State) : Option State :=
  if version ≥ 13 then
    if s.count > 1 then some { s with count := s.count - 1 }
    else markLast { s with count := 0, held := false }
  else some { s with held := false }

/-- `wakeTimeoutCallback`, with whether its parameter is null. -/
def wakeTimeoutCallback (version : ℤ) (s : State) (isNull : Bool) : Option State :=
  if version ≥ 13 then
    if isNull then some { s with count := 0, held := false } else some s
  else if isNull then releaseWakeLock version s
  else some s

/-- `userTimerCallback` for the record `p`, which is run directly. -/
def userTimerCallback (version : ℤ) (s : State) (p : ℕ) : Option State := do
  let r ← s.armed p
  let s ← wakeTimeoutCallback version s (!r.cancelled)
  let s := if s.last = some p then { s with last := none } else s
  some { s with armed := Function.update s.armed p none }

/-- What can happen next. -/
inductive Event where
  | grab (created : Option ℕ)
  | release
  | expire (p : ℕ)
  deriving DecidableEq

def step (version : ℤ) (s : State) : Event → Option State
  | .grab created =>
      -- `calloc` answers no record that is in use
      if created.all fun p => (s.armed p).isNone then grabPartialWakeLock version s created
      else none
  | .release => releaseWakeLock version s
  | .expire p => userTimerCallback version s p

/-- The creation of a timer succeeds. -/
def Event.created : Event → Bool
  | .grab created => created.isSome
  | _ => true

/-! ## Invariant -/

/-- A timeout is armed and not cancelled. -/
def State.Pending (s : State) (p : ℕ) : Prop := ∃ r, s.armed p = some r ∧ r.cancelled = false

/-- While the count is positive the lock is held, and the timeout of the latest grab, to
which the pointer refers, is the one that is pending. -/
structure State.Balanced (s : State) : Prop where
  nonneg : 0 ≤ s.count
  held : s.held = true ↔ 0 < s.count
  lastArmed : ∀ p, s.last = some p → (s.armed p).isSome
  pending : 0 < s.count → ∃ p, s.Pending p
  latest : ∀ p r, s.armed p = some r → r.cancelled = false →
    0 < s.count ∧ s.last = some p ∧ r.grab + 1 = s.grabs

theorem balanced_init : State.init.Balanced where
  nonneg := Int.le_refl 0
  held := by simp [State.init]
  lastArmed := by simp [State.init]
  pending := fun h => absurd h (by simp [State.init])
  latest := by simp [State.init]

/-- After the record of the pointer has been marked, no timeout is pending that the pointer
does not refer to. -/
theorem markLast_spec {s : State} (hlast : ∀ p, s.last = some p → (s.armed p).isSome) :
    ∃ armed, markLast s = some { s with armed := armed } ∧
      (∀ p, (armed p).isSome = (s.armed p).isSome) ∧
      (∀ p r, armed p = some r → r.cancelled = false →
        s.last ≠ some p ∧ s.armed p = some r) ∧
      ∀ p, s.last ≠ some p → armed p = s.armed p := by
  rcases Option.eq_none_or_eq_some s.last with hl | ⟨q, hl⟩
  · have hmark : markLast s = some s := by simp [markLast, hl]
    exact ⟨s.armed, hmark, fun _ => rfl, fun p r hp _ => ⟨by simp [hl], hp⟩, fun _ _ => rfl⟩
  · obtain ⟨r, hr⟩ := Option.isSome_iff_exists.1 (hlast q hl)
    refine ⟨Function.update s.armed q (some { r with cancelled := true }), ?_, ?_, ?_, ?_⟩
    · simp [markLast, hl, hr]
    · intro p
      by_cases hp : p = q
      · subst hp
        simp [hr]
      · rw [Function.update_of_ne hp]
    · intro p r' hp hcancelled
      have hpq : p ≠ q := by
        rintro rfl
        rw [Function.update_self] at hp
        cases Option.some.inj hp
        simp at hcancelled
      rw [Function.update_of_ne hpq] at hp
      exact ⟨fun h => hpq (Option.some.inj (h.symm.trans hl)), hp⟩
    · intro p hp
      exact Function.update_of_ne (fun h => hp (hl.trans (congrArg some h.symm))) _ _

section Steps

variable {version : ℤ} {s s' : State}

/-- A grab cancels the timeout before it, and its own becomes the one pending. -/
theorem grab_balanced (hv : 13 ≤ version) (h : s.Balanced) {p : ℕ} (hp : s.armed p = none)
    (hs : grabPartialWakeLock version s (some p) = some s') : s'.Balanced := by
  have hne : ∀ q, s.last = some q → q ≠ p := by
    rintro q hq rfl
    have harmed := h.lastArmed q hq
    simp [hp] at harmed
  simp only [grabPartialWakeLock, ge_iff_le, hv, if_true, Option.bind_eq_bind,
    Option.bind_eq_some_iff, Option.some.injEq, Word.checkedInt32_eq_some] at hs
  obtain ⟨count, ⟨rfl, -, -⟩, t, ht, rfl⟩ := hs
  obtain ⟨armed, hmark, hsome, hold, hother⟩ := markLast_spec (s := { s with
    held := true, count := s.count + 1
    armed := Function.update s.armed p (some ⟨false, s.grabs⟩), grabs := s.grabs + 1 }) (by
      intro q hq
      change (Function.update s.armed p _ q).isSome
      rw [Function.update_of_ne (hne q hq)]
      exact h.lastArmed q hq)
  cases Option.some.inj (hmark.symm.trans ht)
  have hself : armed p = some ⟨false, s.grabs⟩ := by
    have hlast : s.last ≠ some p := fun hl => hne p hl rfl
    rw [hother p hlast]
    exact Function.update_self p _ _
  have hpos : 0 < s.count + 1 := Int.lt_add_one_of_le h.nonneg
  refine ⟨Int.le_of_lt hpos, ?_, ?_, fun _ => ⟨p, _, hself, rfl⟩, ?_⟩
  · simp [hpos]
  · intro q hq
    cases Option.some.inj hq
    simp [hself]
  · intro q r hq hcancelled
    obtain ⟨hlast, harmed⟩ := hold q r hq hcancelled
    by_cases hqp : q = p
    · subst hqp
      cases Option.some.inj (hself.symm.trans hq)
      exact ⟨hpos, rfl, rfl⟩
    · have harmed' : s.armed q = some r := by
        simpa [Function.update_of_ne hqp] using harmed
      exact absurd (h.latest q r harmed' hcancelled).2.1 hlast

/-- The last release cancels the timeout that is pending. -/
theorem release_balanced (hv : 13 ≤ version) (h : s.Balanced)
    (hs : releaseWakeLock version s = some s') : s'.Balanced := by
  simp only [releaseWakeLock, ge_iff_le, hv, if_true] at hs
  split at hs
  · rename_i hmore
    cases Option.some.inj hs
    have hpos : 0 < s.count - 1 := by omega
    have hpos' : 0 < s.count := by omega
    refine ⟨Int.le_of_lt hpos, ?_, h.lastArmed, fun _ => h.pending hpos', ?_⟩
    · simp only [h.held.2 hpos', true_iff]
      exact hpos
    · intro p r hp hcancelled
      exact ⟨hpos, (h.latest p r hp hcancelled).2⟩
  · obtain ⟨armed, hmark, hsome, hold, -⟩ := markLast_spec
      (s := { s with count := 0, held := false }) h.lastArmed
    cases Option.some.inj (hmark.symm.trans hs)
    refine ⟨Int.le_refl 0, by simp, ?_, fun hpos => absurd hpos (by simp), ?_⟩
    · intro p hp
      rw [hsome]
      exact h.lastArmed p hp
    · intro p r hp hcancelled
      obtain ⟨hlast, harmed⟩ := hold p r hp hcancelled
      exact absurd (h.latest p r harmed hcancelled).2.1 hlast

/-- What an expiry does: a timeout that is not cancelled zeroes the count and releases the
lock; in either case the pointer no longer refers to its record, which is freed. -/
theorem userTimerCallback_cases (hv : 13 ≤ version) {p : ℕ}
    (hs : userTimerCallback version s p = some s') :
    ∃ r, s.armed p = some r ∧
      s' = ⟨if r.cancelled then s.count else 0, if r.cancelled then s.held else false,
        if s.last = some p then none else s.last, Function.update s.armed p none, s.grabs⟩ := by
  simp only [userTimerCallback, wakeTimeoutCallback, ge_iff_le, hv, if_true, Option.bind_eq_bind,
    Option.bind_eq_some_iff, Option.some.injEq] at hs
  obtain ⟨r, hr, t, ht, rfl⟩ := hs
  refine ⟨r, hr, ?_⟩
  cases hc : r.cancelled with
  | false =>
      simp only [hc, Bool.not_false, if_true, Option.some.injEq] at ht
      subst ht
      by_cases hlast : s.last = some p <;> simp [hlast]
  | true =>
      simp only [hc, Bool.not_true, Bool.false_eq_true, if_false, Option.some.injEq] at ht
      subst ht
      by_cases hlast : s.last = some p <;> simp [hlast]

/-- The timeout that is pending takes the lock away; one that is cancelled does nothing. -/
theorem expire_balanced (hv : 13 ≤ version) (h : s.Balanced) {p : ℕ}
    (hs : userTimerCallback version s p = some s') : s'.Balanced := by
  have hfree : ∀ q r, Function.update s.armed p none q = some r → q ≠ p ∧ s.armed q = some r := by
    intro q r hq
    by_cases hqp : q = p
    · subst hqp
      simp at hq
    · rw [Function.update_of_ne hqp] at hq
      exact ⟨hqp, hq⟩
  have hlastArmed : ∀ q, (if s.last = some p then none else s.last) = some q →
      (Function.update s.armed p none q).isSome := by
    intro q hq
    obtain ⟨hne, hlast⟩ := Option.ite_none_left_eq_some.1 hq
    have hqp : q ≠ p := by
      rintro rfl
      exact hne hlast
    rw [Function.update_of_ne hqp]
    exact h.lastArmed q hlast
  obtain ⟨r, hr, rfl⟩ := userTimerCallback_cases hv hs
  cases hc : r.cancelled with
  | false =>
      -- the only timeout that is not cancelled has expired
      have hnone : ∀ q r', Function.update s.armed p none q = some r' → r'.cancelled = true := by
        intro q r' hq
        obtain ⟨hqp, hq'⟩ := hfree q r' hq
        by_contra hcancelled
        have hlq := (h.latest q r' hq' (by simpa using hcancelled)).2.1
        have hlp := (h.latest p r hr hc).2.1
        exact hqp (Option.some.inj (hlq.symm.trans hlp))
      refine ⟨Int.le_refl 0, by simp, hlastArmed, fun hpos => absurd hpos (by simp), ?_⟩
      intro q r' hq hcancelled
      exact absurd (hnone q r' hq) (by simp [hcancelled])
  | true =>
      refine ⟨h.nonneg, h.held, hlastArmed, fun hpos => ?_, ?_⟩
      · obtain ⟨q, r', hq, hcancelled⟩ := h.pending hpos
        have hqp : q ≠ p := by
          rintro rfl
          cases Option.some.inj (hr.symm.trans hq)
          simp [hc] at hcancelled
        exact ⟨q, r', (Function.update_of_ne hqp _ _).trans hq, hcancelled⟩
      · intro q r' hq hcancelled
        obtain ⟨hqp, hq'⟩ := hfree q r' hq
        obtain ⟨hpos, hlast, hgrab⟩ := h.latest q r' hq' hcancelled
        refine ⟨hpos, ?_, hgrab⟩
        have hne : s.last ≠ some p := fun hlp => hqp (Option.some.inj (hlast.symm.trans hlp))
        exact (if_neg hne).trans hlast

/-- **One step.** -/
theorem step_balanced (hv : 13 ≤ version) (h : s.Balanced) {e : Event} (he : e.created)
    (hs : step version s e = some s') : s'.Balanced := by
  cases e with
  | grab created =>
      cases created with
      | none => simp [Event.created] at he
      | some p =>
          simp only [step, Option.all_some, Option.ite_none_right_eq_some,
            Option.isNone_iff_eq_none] at hs
          exact grab_balanced hv h hs.1 hs.2
  | release => exact release_balanced hv h hs
  | expire p => exact expire_balanced hv h hs

end Steps

/-! ## Main result -/

/-- The wake lock is accounted for: it is held exactly when the count is positive, and this is
exactly when one timeout is armed and not cancelled; such a timeout is that of the latest
grab, and the pointer does not refer to a record that has been freed. -/
structure State.Accounted (s : State) : Prop where
  nonneg : 0 ≤ s.count
  held : s.held = true ↔ 0 < s.count
  pending : 0 < s.count ↔ ∃! p, s.Pending p
  none : ¬ 0 < s.count → ∀ p, ¬ s.Pending p
  latest : ∀ p r, s.armed p = some r → r.cancelled = false → r.grab + 1 = s.grabs
  lastArmed : ∀ p, s.last = some p → (s.armed p).isSome

theorem State.Balanced.accounted {s : State} (h : s.Balanced) : s.Accounted where
  nonneg := h.nonneg
  held := h.held
  pending := by
    constructor
    · intro hpos
      obtain ⟨p, r, hr, hc⟩ := h.pending hpos
      refine ⟨p, ⟨r, hr, hc⟩, ?_⟩
      rintro q ⟨r', hr', hc'⟩
      have hp := (h.latest p r hr hc).2.1
      have hq := (h.latest q r' hr' hc').2.1
      exact Option.some.inj (hq.symm.trans hp)
    · rintro ⟨p, ⟨r, hr, hc⟩, -⟩
      exact (h.latest p r hr hc).1
  none := by
    rintro hzero p ⟨r, hr, hc⟩
    exact hzero (h.latest p r hr hc).1
  latest := fun p r hr hc => (h.latest p r hr hc).2.2
  lastArmed := h.lastArmed

/-- **Wake-lock accounting.**  With vendor RIL version 13 or later, and as long as timers can be
created, every sequence of grabs, releases and expiries of timeouts, the superseded ones
included, keeps the count, the kernel's lock and the pending timeout consistent. -/
theorem wakeLock_accounted {version : ℤ} (hv : 13 ≤ version) (es : List Event)
    (hcreated : Meets (step version) (fun _ e => e.created) State.init es) :
    Always (step version) State.Accounted State.init es :=
  (always_of_meets (fun _ _ _ h he hs => step_balanced hv h he hs) balanced_init hcreated).mono
    fun _ h => h.accounted

/-- A superseded timeout expires between two grabs and a release. -/
theorem wakeLock_accounted_superseded :
    Always (step 13) State.Accounted State.init
      [.grab (some 1), .grab (some 2), .expire 1, .release, .grab (some 1), .release, .expire 2] :=
  wakeLock_accounted (by decide) _ (by decide)

/-! ## A grab whose timeout cannot be created -/

/-- The count, the kernel's lock and the timeouts that are armed and not cancelled are in `s'`
as they are in `s`. -/
structure SameAccounting (s s' : State) : Prop where
  count : s'.count = s.count
  held : s'.held = s.held
  last : s'.last = s.last
  pending : ∀ p, s'.Pending p ↔ s.Pending p

/-- A failing grab always returns, and all it changes is the kernel's lock. -/
theorem grabPartialWakeLock_none {version : ℤ} (hv : 13 ≤ version) (s : State) :
    grabPartialWakeLock version s none = some { s with held := false } := by
  unfold grabPartialWakeLock
  rw [if_pos hv]

/-- **Atomicity of a failing grab.**  With vendor RIL version 13 or later, and in whatever state
the accounting is, a grab whose timeout cannot be created leaves the accounting as it was
exactly when the kernel's lock was not held. -/
theorem failedGrab_atomic_iff {version : ℤ} (hv : 13 ≤ version) (s : State) :
    (∃ s', grabPartialWakeLock version s none = some s' ∧ SameAccounting s s') ↔
      s.held = false := by
  rw [grabPartialWakeLock_none hv]
  constructor
  · rintro ⟨s', hs', hsame⟩
    cases Option.some.inj hs'
    exact hsame.held.symm
  · intro hheld
    exact ⟨_, rfl, rfl, hheld.symm, rfl, fun _ => Iff.rfl⟩

/-- The lock is not held: nothing is lost. -/
theorem failedGrab_atomic_idle :
    (∃ s', grabPartialWakeLock 13 State.init none = some s' ∧ SameAccounting State.init s') ↔
      State.init.held = false :=
  failedGrab_atomic_iff (by decide) State.init

/-- The accounting while one indication is delivered. -/
def oneGrab : State :=
  ⟨1, true, some 1, Function.update (fun _ => none) 1 (some ⟨false, 0⟩), 1⟩

/-- One indication holds the lock, and the grab of another fails: the lock is gone while the
count is still one. -/
theorem failedGrab_releases :
    run (step 13) State.init [.grab (some 1)] = some oneGrab ∧
      ¬ ∃ s', grabPartialWakeLock 13 oneGrab none = some s' ∧ SameAccounting oneGrab s' := by
  refine ⟨rfl, ?_⟩
  rintro ⟨s', hs', hsame⟩
  cases Option.some.inj hs'
  exact absurd hsame.held (by decide)

end Ril.WakeLock
