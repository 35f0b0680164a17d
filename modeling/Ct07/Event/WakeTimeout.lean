/-
# Superseded wake timeouts, step by step

`grabPartialWakeLock` and `releaseWakeLock` run under the mutex of the wake lock.  The
callback of a timeout runs on the event loop and takes the mutex only to zero the count: it
reads its parameter before, and compares the pointer, clears it and frees the record after,
without the mutex.  Here these are separate steps, and so are the steps of the grab or
release that holds the mutex.

Main result: `timeouts_inert`.
-/
import Ct07.Lib.Run
import Ct07.Lib.Word
import Mathlib.Logic.Function.Basic

open PartialStep

namespace Ril.WakeTimeout

/-! ## State -/

/-- A pointer to the record of a timeout.  The code only has the address; the grab that armed
the timeout tells a record from a later one at the same address. -/
structure Ptr where
  addr : ℕ
  grab : ℕ
  deriving DecidableEq

/-- The `UserCallbackInfo` of a timeout. -/
structure Record where
  /-- `userParam` is not null -/
  cancelled : Bool
  grab : ℕ
  deriving DecidableEq

/-- The operation that holds the mutex. -/
inductive Holder where
  /-- a grab that has armed its own timeout -/
  | grab (own : Ptr)
  | release
  deriving DecidableEq

/-- The place in `if (s_last_wake_timeout_info != NULL) ...->userParam = (void *)1`, or behind
it. -/
inductive Section where
  /-- the mutex is free -/
  | free
  | test (who : Holder)
  | load (who : Holder)
  | store (who : Holder) (target : Option Ptr)
  /-- in front of `s_last_wake_timeout_info = p_info` -/
  | set (own : Ptr)
  deriving DecidableEq

/-- The place of the event loop in `userTimerCallback` for the record at an address. -/
inductive Loop where
  | idle
  /-- in front of the reading of `userParam` -/
  | entered (p : ℕ)
  /-- it was null, and the mutex is not taken yet -/
  | expiring (p : ℕ)
  /-- the callback has returned -/
  | returned (p : ℕ)
  /-- the pointer was equal, and is not cleared yet -/
  | compared (p : ℕ)
  /-- in front of `free` -/
  | freeing (p : ℕ)
  deriving DecidableEq

/-- A timeout that has taken the mutex: its grab, and the number of grabs and the count at
that time. -/
structure Zeroing where
  grab : ℕ
  grabs : ℕ
  count : ℤ
  deriving DecidableEq

/-- `grabs`, `zeroings` and `writes` are records beside the code's data; `writes` tells for
every write through the pointer whether the record it refers to was allocated. -/
structure State where
  /-- `s_wakelock_count` -/
  count : ℤ
  /-- the kernel's wake lock -/
  held : Bool
  /-- `s_last_wake_timeout_info` -/
  last : Option Ptr
  /-- the allocated records, by their address -/
  record : ℕ → Option Record
  /-- the record's timer is on the timer list -/
  armed : ℕ → Bool
  /-- what is done under the mutex -/
  inside : Section
  loop : Loop
  grabs : ℕ
  zeroings : List Zeroing
  writes : List Bool

def State.init : State where
  count := 0
  held := false
  last := none
  record := fun _ => none
  armed := fun _ => false
  inside := .free
  loop := .idle
  grabs := 0
  zeroings := []
  writes := []

/-- The record that the pointer was set to is still allocated. -/
def State.refersTo (s : State) (t : Ptr) : Bool :=
  (s.record t.addr).any fun r => decide (r.grab = t.grab)

/-! ## Steps -/

/-- `grabPartialWakeLock`, from the lock to the creation of the timer and the count.  When no
record can be allocated, the lock is released again. -/
def grab (s : State) : Option ℕ → Option State
  | none => some { s with held := false }
  | some p => do
      let count ← Word.checkedInt32 (s.count + 1)
      some { s with
        held := true
        count := count
        record := Function.update s.record p (some ⟨false, s.grabs⟩)
        armed := Function.update s.armed p true
        inside := .test (.grab ⟨p, s.grabs⟩)
        grabs := s.grabs + 1 }

/-- `releaseWakeLock`, from the lock to the test of the pointer. -/
def release (s : State) : State :=
  if s.count > 1 then { s with count := s.count - 1 }
  else { s with count := 0, held := false, inside := .test .release }

/-- Behind the mark a grab sets the pointer, and a release unlocks the mutex. -/
def Holder.next : Holder → Section
  | .grab own => .set own
  | .release => .free

/-- `->userParam = (void *)1` through the pointer loaded. -/
def mark (s : State) (target : Option Ptr) : State :=
  match target with
  | none => { s with writes := s.writes ++ [false] }
  | some t =>
      { s with
        record := Function.update s.record t.addr
          ((s.record t.addr).map fun r => { r with cancelled := true })
        writes := s.writes ++ [s.refersTo t] }

/-- The thread that holds the mutex goes on. -/
def insideStep (s : State) : Option State :=
  match s.inside with
  | .free => none
  | .test who => some { s with inside := if s.last = none then who.next else .load who }
  | .load who => some { s with inside := .store who s.last }
  | .store who target => some { mark s target with inside := who.next }
  | .set own => some { s with last := some own, inside := .free }

/-- The event loop goes on in `wakeTimeoutCallback` and `userTimerCallback`. -/
def loopStep (s : State) : Option State :=
  match s.loop with
  | .idle => none
  | .entered p =>
      (s.record p).map fun r =>
        { s with loop := if r.cancelled then .returned p else .expiring p }
  | .expiring p =>
      -- the mutex is taken, and unlocked again
      if s.inside = .free then
        (s.record p).map fun r =>
          { s with
            count := 0
            held := false
            loop := .returned p
            zeroings := s.zeroings ++ [⟨r.grab, s.grabs, s.count⟩] }
      else none
  | .returned p =>
      some { s with loop := if s.last.map Ptr.addr = some p then .compared p else .freeing p }
  | .compared p => some { s with last := none, loop := .freeing p }
  | .freeing p => some { s with record := Function.update s.record p none, loop := .idle }

/-- What can happen next. -/
inductive Event where
  /-- a thread takes the mutex in `grabPartialWakeLock` -/
  | grab (created : Option ℕ)
  /-- a thread takes the mutex in `releaseWakeLock` -/
  | release
  /-- the thread that holds the mutex goes on -/
  | inside
  /-- the event loop takes a timer that is due off the list -/
  | fire (p : ℕ)
  /-- the event loop goes on -/
  | loop
  deriving DecidableEq

def step (s : State) : Event → Option State
  | .grab created =>
      if s.inside = .free ∧ created.all (fun p => (s.record p).isNone) then grab s created
      else none
  | .release => if s.inside = .free then some (release s) else none
  | .inside => insideStep s
  | .fire p =>
      if s.loop = .idle ∧ s.armed p = true then
        some { s with armed := Function.update s.armed p false, loop := .entered p }
      else none
  | .loop => loopStep s

/-! ## The property, and when it holds -/

/-- A timeout that took the mutex was that of the latest grab, or found nothing to zero; and
every write through the pointer went to the record that it was set to. -/
structure State.Inert (s : State) : Prop where
  zeroings : ∀ z ∈ s.zeroings, z.grab + 1 = z.grabs ∨ z.count = 0
  writes : ∀ live ∈ s.writes, live = true

/-- The event loop takes the mutex while the record is not cancelled or nothing is held, clears
the pointer while it still refers to the record and no one is about to load it, and frees
the record while no one has the pointer loaded. -/
def Event.Separate (s : State) : Event → Prop
  | .loop =>
      match s.loop with
      | .expiring p => (s.record p).all (fun r => !r.cancelled) ∨ s.count = 0
      | .compared p =>
          s.last.map Ptr.addr = some p ∧
            match s.inside with
            | .load _ => False
            | _ => True
      | .freeing p =>
          match s.inside with
          | .store _ target => target.map Ptr.addr ≠ some p
          | _ => True
      | _ => True
  | _ => True

instance (s : State) (e : Event) : Decidable (e.Separate s) := by
  unfold Event.Separate
  cases e with
  | loop =>
      cases s.loop with
      | compared p => cases s.inside <;> infer_instance
      | freeing p => cases s.inside <;> infer_instance
      | _ => infer_instance
  | _ => infer_instance

/-! ## Invariant -/

/-- The record that the event loop works on. -/
def Loop.record : Loop → Option ℕ
  | .idle => none
  | .entered p | .expiring p | .returned p | .compared p | .freeing p => some p

/-- The timeout of the grab that holds the mutex. -/
def Section.own : Section → Option Ptr
  | .test (.grab o) | .load (.grab o) | .store (.grab o) _ | .set o => some o
  | _ => none

/-- The timeout at address `p` may still take the mutex. -/
def State.MayExpire (s : State) (p : ℕ) : Prop :=
  s.armed p = true ∨ s.loop = .entered p ∨ s.loop = .expiring p

/-- A timeout that may expire and is not cancelled is that of the latest grab, to which the
pointer refers; while a grab holds the mutex it is its own or the one that it will mark. -/
def State.Covered (s : State) (t : Ptr) : Prop :=
  match s.inside with
  | .test (.grab o) | .load (.grab o) => t = o ∨ s.last = some t
  | .store (.grab o) target => t = o ∨ target = some t
  | .set o => t = o
  | _ => s.last = some t ∧ t.grab + 1 = s.grabs

structure Inv (s : State) : Prop where
  inert : s.Inert
  armedLive : ∀ p, s.armed p = true → (s.record p).isSome
  loopLive : ∀ p, s.loop.record = some p → (s.record p).isSome ∧ s.armed p = false
  lastLive : ∀ t, s.last = some t → s.refersTo t = true ∧ s.loop ≠ .freeing t.addr
  loading : ∀ who, s.inside = .load who → s.last ≠ none
  storing : ∀ who target, s.inside = .store who target →
    ∃ t, target = some t ∧ s.refersTo t = true
  own : ∀ o, s.inside.own = some o → ∃ r, s.record o.addr = some r ∧ r.cancelled = false ∧
    r.grab = o.grab ∧ o.grab + 1 = s.grabs ∧ s.MayExpire o.addr
  ownOther : ∀ o, s.inside.own = some o → (∀ t, s.last = some t → t.addr ≠ o.addr) ∧
    ∀ who t, s.inside = .store who (some t) → t.addr ≠ o.addr
  covered : ∀ p r, s.record p = some r → r.cancelled = false → s.MayExpire p →
    s.Covered ⟨p, r.grab⟩

theorem inv_init : Inv State.init where
  inert := ⟨by simp [State.init], by simp [State.init]⟩
  armedLive := by simp [State.init]
  loopLive := by simp [State.init, Loop.record]
  lastLive := by simp [State.init]
  loading := by simp [State.init]
  storing := by simp [State.init]
  own := by simp [State.init, Section.own]
  ownOther := by simp [State.init, Section.own]
  covered := by simp [State.init]

theorem refersTo_eq_true {s : State} {t : Ptr} :
    s.refersTo t = true ↔ ∃ r, s.record t.addr = some r ∧ r.grab = t.grab := by
  simp [State.refersTo, Option.any_eq_true]

/-- A record that is on the timer list is not the one that the event loop works on. -/
theorem Inv.armed_of_ne {s : State} (h : Inv s) {p q : ℕ} (hp : s.armed p = true)
    (hq : s.loop.record = some q) : p ≠ q := by
  rintro rfl
  have hnot := (h.loopLive p hq).2
  simp [hp] at hnot

/-- Behind the mutex a timeout does not expire. -/
theorem Inv.not_mayExpire {s : State} (h : Inv s) {p : ℕ}
    (hloop : s.loop = .returned p ∨ s.loop = .compared p ∨ s.loop = .freeing p) :
    ¬ s.MayExpire p := by
  have hrecord : s.loop.record = some p := by
    rcases hloop with hl | hl | hl <;> rw [hl] <;> rfl
  rintro (harmed | hentered | hexpiring)
  · exact h.armed_of_ne harmed hrecord rfl
  · rcases hloop with hl | hl | hl <;> simp [hl] at hentered
  · rcases hloop with hl | hl | hl <;> simp [hl] at hexpiring

/-- Once the event loop is past the mutex, only a timer that is armed may expire. -/
theorem State.MayExpire.armed {s : State} {p q : ℕ} (hm : s.MayExpire q)
    (hloop : s.loop = .idle ∨ s.loop = .compared p ∨ s.loop = .freeing p) : s.armed q = true := by
  rcases hm with harmed | hentered | hexpiring
  · exact harmed
  · rcases hloop with hl | hl | hl <;> simp [hl] at hentered
  · rcases hloop with hl | hl | hl <;> simp [hl] at hexpiring

/-! ## Taking the mutex -/

section Steps

variable {s s' : State}

/-- A grab arms its own timeout. -/
theorem grab_inv (h : Inv s) (hfree : s.inside = .free) {created : Option ℕ}
    (hnew : ∀ p, created = some p → s.record p = none) (hs : grab s created = some s') :
    Inv s' := by
  cases created with
  | none =>
      cases Option.some.inj hs
      exact ⟨⟨h.inert.zeroings, h.inert.writes⟩, h.armedLive, h.loopLive, h.lastLive, h.loading,
        h.storing, h.own, h.ownOther, h.covered⟩
  | some p =>
      have hp := hnew p rfl
      have hne : ∀ q r, s.record q = some r → q ≠ p := by
        rintro q r hq rfl
        exact absurd (hp.symm.trans hq) (by simp)
      have hlast : ∀ t, s.last = some t → t.addr ≠ p := by
        intro t ht
        obtain ⟨r, hr, -⟩ := refersTo_eq_true.1 (h.lastLive t ht).1
        exact hne t.addr r hr
      simp only [grab, Option.bind_eq_bind, Option.bind_eq_some_iff, Option.some.injEq,
        Word.checkedInt32_eq_some] at hs
      obtain ⟨count, -, rfl⟩ := hs
      refine ⟨⟨h.inert.zeroings, h.inert.writes⟩, ?_, ?_, ?_, by simp, by simp, ?_, ?_, ?_⟩
      · intro q hq
        by_cases hqp : q = p
        · subst hqp
          simp
        · simp only [Function.update_of_ne hqp] at hq ⊢
          exact h.armedLive q hq
      · intro q hq
        obtain ⟨hsome, harmed⟩ := h.loopLive q hq
        obtain ⟨r, hr⟩ := Option.isSome_iff_exists.1 hsome
        simp only [Function.update_of_ne (hne q r hr)]
        exact ⟨hsome, harmed⟩
      · intro t ht
        obtain ⟨hrefers, hloop⟩ := h.lastLive t ht
        refine ⟨?_, hloop⟩
        simp only [State.refersTo, Function.update_of_ne (hlast t ht)]
        exact hrefers
      · intro o ho
        cases Option.some.inj ho
        refine ⟨⟨false, s.grabs⟩, ?_, rfl, rfl, rfl, .inl ?_⟩
        · simp only [Function.update_self]
        · simp only [Function.update_self]
      · intro o ho
        cases Option.some.inj ho
        exact ⟨hlast, by simp⟩
      · intro q r hq hcancelled hmay
        change Ptr.mk q r.grab = ⟨p, s.grabs⟩ ∨ s.last = some ⟨q, r.grab⟩
        by_cases hqp : q = p
        · subst hqp
          simp only [Function.update_self, Option.some.injEq] at hq
          subst hq
          exact .inl rfl
        · simp only [Function.update_of_ne hqp] at hq
          have hmay' : s.MayExpire q := by
            simpa only [State.MayExpire, Function.update_of_ne hqp] using hmay
          have hcov := h.covered q r hq hcancelled hmay'
          simp only [State.Covered, hfree] at hcov
          exact .inr hcov.1

theorem release_inv (h : Inv s) (hfree : s.inside = .free) : Inv (release s) := by
  unfold release
  split
  · exact ⟨⟨h.inert.zeroings, h.inert.writes⟩, h.armedLive, h.loopLive, h.lastLive, h.loading,
      h.storing, h.own, h.ownOther, h.covered⟩
  · refine ⟨⟨h.inert.zeroings, h.inert.writes⟩, h.armedLive, h.loopLive, h.lastLive, by simp,
      by simp, by simp [Section.own], by simp [Section.own], ?_⟩
    intro p r hp hcancelled hmay
    have hcov := h.covered p r hp hcancelled hmay
    simpa only [State.Covered, hfree] using hcov

/-! ## Under the mutex -/

/-- `inside` changes, and nothing that is pending is lost. -/
theorem Inv.setInside (h : Inv s) {new : Section} (hown : new.own = s.inside.own)
    (hload : ∀ who, new = .load who → s.last ≠ none)
    (hstore : ∀ who target, new = .store who target →
      ∃ t, target = some t ∧ s.last = some t)
    (hcov : ∀ t, s.Covered t → State.Covered { s with inside := new } t) :
    Inv { s with inside := new } where
  inert := ⟨h.inert.zeroings, h.inert.writes⟩
  armedLive := h.armedLive
  loopLive := h.loopLive
  lastLive := h.lastLive
  loading := hload
  storing := by
    intro who target hnew
    obtain ⟨t, rfl, hlast⟩ := hstore who target hnew
    exact ⟨t, rfl, (h.lastLive t hlast).1⟩
  own := fun o ho => h.own o (hown.symm.trans ho)
  ownOther := by
    intro o ho
    refine ⟨(h.ownOther o (hown.symm.trans ho)).1, fun who t hnew => ?_⟩
    obtain ⟨t', ht', hlast⟩ := hstore who (some t) hnew
    cases Option.some.inj ht'
    exact (h.ownOther o (hown.symm.trans ho)).1 t hlast
  covered := fun p r hp hcancelled hmay => hcov _ (h.covered p r hp hcancelled hmay)

theorem test_inv (h : Inv s) {who : Holder} (hin : s.inside = .test who) :
    Inv { s with inside := if s.last = none then who.next else .load who } := by
  by_cases hnone : s.last = none
  · rw [if_pos hnone]
    cases who with
    | grab o =>
        apply h.setInside (by rw [hin]; rfl) (by simp [Holder.next]) (by simp [Holder.next])
        intro t ht
        simp only [State.Covered, hin, hnone] at ht
        simpa [State.Covered, Holder.next] using ht
    | release =>
        apply h.setInside (by rw [hin]; rfl) (by simp [Holder.next]) (by simp [Holder.next])
        intro t ht
        simp only [State.Covered, hin, hnone] at ht
        simp at ht
  · rw [if_neg hnone]
    refine h.setInside ?_ (fun _ _ => hnone) (by simp) ?_
    · rw [hin]
      cases who <;> rfl
    · intro t ht
      cases who <;> simpa only [State.Covered, hin] using ht

theorem load_inv (h : Inv s) {who : Holder} (hin : s.inside = .load who) :
    Inv { s with inside := .store who s.last } := by
  obtain ⟨t, ht⟩ := Option.ne_none_iff_exists'.1 (h.loading who hin)
  refine h.setInside ?_ (by simp) ?_ ?_
  · rw [hin]
    cases who <;> rfl
  · intro who' target hnew
    cases hnew
    exact ⟨t, ht, ht⟩
  · intro t' ht'
    cases who <;> simpa only [State.Covered, hin] using ht'

theorem mark_record_of_ne (s : State) {t : Ptr} {p : ℕ} (hp : p ≠ t.addr) :
    (mark s (some t)).record p = s.record p :=
  Function.update_of_ne hp _ s.record

/-- The mark neither allocates nor frees a record. -/
theorem mark_isSome (s : State) (t : Ptr) (p : ℕ) :
    ((mark s (some t)).record p).isSome = (s.record p).isSome := by
  by_cases hp : p = t.addr
  · subst hp
    simp [mark]
  · rw [mark_record_of_ne s hp]

/-- The mark leaves the grab of a record as it is. -/
theorem refersTo_mark {t u : Ptr} (hu : s.refersTo u = true) :
    (mark s (some t)).refersTo u = true := by
  obtain ⟨r, hr, hgrab⟩ := refersTo_eq_true.1 hu
  by_cases hut : u.addr = t.addr
  · refine refersTo_eq_true.2 ⟨{ r with cancelled := true }, ?_, hgrab⟩
    rw [hut] at hr ⊢
    simp [mark, hr]
  · exact refersTo_eq_true.2 ⟨r, (mark_record_of_ne s hut).trans hr, hgrab⟩

/-- What is not cancelled after the mark is another record. -/
theorem mark_uncancelled {t : Ptr} {p : ℕ} {r : Record}
    (hp : (mark s (some t)).record p = some r) (hcancelled : r.cancelled = false) :
    p ≠ t.addr ∧ s.record p = some r := by
  have hpt : p ≠ t.addr := by
    rintro rfl
    simp only [mark, Function.update_self] at hp
    obtain ⟨r', -, rfl⟩ := Option.map_eq_some_iff.1 hp
    simp at hcancelled
  exact ⟨hpt, (mark_record_of_ne s hpt).symm.trans hp⟩

/-- The write reaches the record that the pointer was set to, and cancels it. -/
theorem store_inv (h : Inv s) {who : Holder} {target : Option Ptr}
    (hin : s.inside = .store who target) :
    Inv { mark s target with inside := who.next } := by
  obtain ⟨t, rfl, hrefers⟩ := h.storing who target hin
  have hownIn : who.next.own = s.inside.own := by
    rw [hin]
    cases who <;> rfl
  refine ⟨⟨h.inert.zeroings, ?_⟩, ?_, ?_, ?_, ?_, ?_, ?_, ?_, ?_⟩
  · intro live hlive
    rcases List.mem_append.1 hlive with hlive | hlive
    · exact h.inert.writes live hlive
    · rw [List.mem_singleton.1 hlive, hrefers]
  · intro p hp
    exact (mark_isSome s t p).trans (h.armedLive p hp)
  · intro p hp
    exact ⟨(mark_isSome s t p).trans (h.loopLive p hp).1, (h.loopLive p hp).2⟩
  · intro u hu
    exact ⟨refersTo_mark (h.lastLive u hu).1, (h.lastLive u hu).2⟩
  · intro who' hwho
    cases who <;> exact absurd hwho (by simp [Holder.next])
  · intro who' target' hwho
    cases who <;> exact absurd hwho (by simp [Holder.next])
  · intro o ho
    have ho' : s.inside.own = some o := hownIn.symm.trans ho
    obtain ⟨r, hr, hrest⟩ := h.own o ho'
    have hne : o.addr ≠ t.addr := Ne.symm ((h.ownOther o ho').2 who t hin)
    exact ⟨r, (mark_record_of_ne s hne).trans hr, hrest⟩
  · intro o ho
    refine ⟨(h.ownOther o (hownIn.symm.trans ho)).1, fun who' t' hwho => ?_⟩
    cases who <;> exact absurd hwho (by simp [Holder.next])
  · intro p r hp hcancelled hmay
    obtain ⟨hpt, hold⟩ := mark_uncancelled hp hcancelled
    have hcov := h.covered p r hold hcancelled hmay
    cases who with
    | grab o =>
        simp only [State.Covered, hin, Option.some.injEq] at hcov
        rcases hcov with hcov | hcov
        · simpa only [State.Covered, Holder.next] using hcov
        · exact absurd (congrArg Ptr.addr hcov).symm hpt
    | release =>
        simp only [State.Covered, hin] at hcov
        exact hcov

/-- The pointer is set to the timeout of the grab. -/
theorem set_inv (h : Inv s) {o : Ptr} (hin : s.inside = .set o) :
    Inv { s with last := some o, inside := .free } := by
  have hown : s.inside.own = some o := by rw [hin]; rfl
  obtain ⟨r, hr, -, hgrab, hlatest, hmay⟩ := h.own o hown
  refine ⟨⟨h.inert.zeroings, h.inert.writes⟩, h.armedLive, h.loopLive, ?_, by simp, by simp,
    by simp [Section.own], by simp [Section.own], ?_⟩
  · intro t ht
    cases Option.some.inj ht
    refine ⟨refersTo_eq_true.2 ⟨r, hr, hgrab⟩, fun hloop => ?_⟩
    exact h.not_mayExpire (.inr (.inr hloop)) hmay
  · intro p r' hp hcancelled hmay'
    have hcov := h.covered p r' hp hcancelled hmay'
    simp only [State.Covered, hin] at hcov
    change some o = some _ ∧ r'.grab + 1 = s.grabs
    rw [← hcov]
    refine ⟨rfl, ?_⟩
    rw [← hlatest, ← hcov]

theorem insideStep_inv (h : Inv s) (hs : insideStep s = some s') : Inv s' := by
  unfold insideStep at hs
  split at hs
  · simp at hs
  · rename_i who hin
    cases Option.some.inj hs
    exact test_inv h hin
  · rename_i who hin
    cases Option.some.inj hs
    exact load_inv h hin
  · rename_i who target hin
    cases Option.some.inj hs
    exact store_inv h hin
  · rename_i o hin
    cases Option.some.inj hs
    exact set_inv h hin

/-! ## The event loop -/

/-- A step of the event loop that writes neither the pointer nor a record. -/
theorem Inv.setLoop (h : Inv s) {armed : ℕ → Bool} {loop : Loop}
    (harmed : ∀ p, armed p = true → s.armed p = true)
    (hloop : ∀ p, loop.record = some p → (s.record p).isSome ∧ armed p = false)
    (hlast : ∀ t, s.last = some t → loop ≠ .freeing t.addr)
    (hmay : ∀ p, (armed p = true ∨ loop = .entered p ∨ loop = .expiring p) → s.MayExpire p)
    (hkeep : ∀ o, s.inside.own = some o →
      armed o.addr = true ∨ loop = .entered o.addr ∨ loop = .expiring o.addr) :
    Inv { s with armed := armed, loop := loop } where
  inert := ⟨h.inert.zeroings, h.inert.writes⟩
  armedLive := fun p hp => h.armedLive p (harmed p hp)
  loopLive := hloop
  lastLive := fun t ht => ⟨(h.lastLive t ht).1, hlast t ht⟩
  loading := h.loading
  storing := h.storing
  own := by
    intro o ho
    obtain ⟨r, hr, hcancelled, hgrab, hlatest, -⟩ := h.own o ho
    exact ⟨r, hr, hcancelled, hgrab, hlatest, hkeep o ho⟩
  ownOther := h.ownOther
  covered := fun p r hp hcancelled hm => h.covered p r hp hcancelled (hmay p hm)

theorem fire_inv (h : Inv s) {p : ℕ} (hidle : s.loop = .idle) (hp : s.armed p = true) :
    Inv { s with armed := Function.update s.armed p false, loop := .entered p } := by
  have hupdate : ∀ q, Function.update s.armed p false q = true → q ≠ p ∧ s.armed q = true := by
    intro q hq
    by_cases hqp : q = p
    · subst hqp
      simp at hq
    · rw [Function.update_of_ne hqp] at hq
      exact ⟨hqp, hq⟩
  refine h.setLoop (fun q hq => (hupdate q hq).2) ?_ (by simp) ?_ ?_
  · intro q hq
    cases Option.some.inj hq
    exact ⟨h.armedLive p hp, Function.update_self p false s.armed⟩
  · rintro q (hq | hq | hq)
    · exact .inl (hupdate q hq).2
    · cases hq
      exact .inl hp
    · simp at hq
  · intro o ho
    obtain ⟨r, -, -, -, -, hmay⟩ := h.own o ho
    by_cases hop : o.addr = p
    · exact .inr (.inl (by rw [hop]))
    · have harmed : s.armed o.addr = true := hmay.armed (p := p) (.inl hidle)
      exact .inl ((Function.update_of_ne hop _ _).trans harmed)

/-- The event loop goes on from `old` to `new` within one call of `userTimerCallback`. -/
theorem Inv.advance (h : Inv s) {p : ℕ} (new : Loop) (hold : s.loop.record = some p)
    (hnew : new.record = some p)
    (hlast : ∀ t, s.last = some t → new ≠ .freeing t.addr)
    (hmay : new = .entered p ∨ new = .expiring p → s.MayExpire p)
    (hkeep : ∀ o, s.inside.own = some o → s.loop = .entered o.addr ∨ s.loop = .expiring o.addr →
      new = .entered o.addr ∨ new = .expiring o.addr) :
    Inv { s with loop := new } := by
  refine h.setLoop (fun _ hq => hq) ?_ hlast ?_ ?_
  · intro q hq
    cases Option.some.inj (hnew.symm.trans hq)
    exact h.loopLive p hold
  · rintro q (hq | hq | hq)
    · exact .inl hq
    · have hqp : q = p := by
        rw [hq] at hnew
        exact Option.some.inj hnew
      subst hqp
      exact hmay (.inl hq)
    · have hqp : q = p := by
        rw [hq] at hnew
        exact Option.some.inj hnew
      subst hqp
      exact hmay (.inr hq)
  · intro o ho
    obtain ⟨r, -, -, -, -, hm⟩ := h.own o ho
    rcases hm with hm | hm
    · exact .inl hm
    · exact .inr (hkeep o ho hm)

/-- The parameter is read. -/
theorem entered_inv (h : Inv s) {p : ℕ} (hloop : s.loop = .entered p) {r : Record}
    (hr : s.record p = some r) :
    Inv { s with loop := if r.cancelled then .returned p else .expiring p } := by
  have hrecord : s.loop.record = some p := by rw [hloop]; rfl
  have hkeep : ∀ o, s.inside.own = some o → s.loop = .entered o.addr ∨ s.loop = .expiring o.addr →
      r.cancelled = false ∧ o.addr = p := by
    intro o ho hm
    have hop : o.addr = p := by
      rcases hm with hm | hm
      · exact (Loop.entered.inj (hloop.symm.trans hm)).symm
      · exact absurd (hloop.symm.trans hm) (by simp)
    obtain ⟨r', hr', hcancelled, -⟩ := h.own o ho
    rw [hop] at hr'
    cases Option.some.inj (hr.symm.trans hr')
    exact ⟨hcancelled, hop⟩
  cases hc : r.cancelled with
  | true =>
      rw [if_pos rfl]
      refine h.advance _ hrecord rfl (by simp) (by simp) fun o ho hm => ?_
      exact absurd (hkeep o ho hm).1 (by simp [hc])
  | false =>
      rw [if_neg (by simp)]
      refine h.advance _ hrecord rfl (by simp) (fun _ => .inr (.inl hloop)) fun o ho hm => ?_
      exact .inr (by rw [(hkeep o ho hm).2])

/-- The mutex is taken: the timeout is that of the latest grab, or there is nothing to zero. -/
theorem expiring_inv (h : Inv s) {p : ℕ} (hloop : s.loop = .expiring p) (hfree : s.inside = .free)
    {r : Record} (hr : s.record p = some r)
    (hok : (s.record p).all (fun r => !r.cancelled) ∨ s.count = 0) :
    Inv { s with
      count := 0
      held := false
      loop := .returned p
      zeroings := s.zeroings ++ [⟨r.grab, s.grabs, s.count⟩] } := by
  have hrecord : s.loop.record = some p := by rw [hloop]; rfl
  have hadv := h.advance (.returned p) hrecord rfl (by simp) (by simp) (by
    intro o ho
    rw [hfree] at ho
    simp [Section.own] at ho)
  refine ⟨⟨?_, h.inert.writes⟩, hadv.armedLive, hadv.loopLive, hadv.lastLive, hadv.loading,
    hadv.storing, hadv.own, hadv.ownOther, hadv.covered⟩
  intro z hz
  rcases List.mem_append.1 hz with hz | hz
  · exact h.inert.zeroings z hz
  · rw [List.mem_singleton.1 hz]
    rcases hok with hok | hok
    · have hcancelled : r.cancelled = false := by simpa [hr] using hok
      have hcov := h.covered p r hr hcancelled (.inr (.inr hloop))
      simp only [State.Covered, hfree] at hcov
      exact .inl hcov.2
    · exact .inr hok

/-- The pointer is compared. -/
theorem returned_inv (h : Inv s) {p : ℕ} (hloop : s.loop = .returned p) :
    Inv { s with loop := if s.last.map Ptr.addr = some p then .compared p else .freeing p } := by
  have hrecord : s.loop.record = some p := by rw [hloop]; rfl
  have hkeep : ∀ o : Ptr, ¬ (s.loop = .entered o.addr ∨ s.loop = .expiring o.addr) := by
    rintro o (hm | hm) <;> exact absurd (hloop.symm.trans hm) (by simp)
  split
  · exact h.advance _ hrecord rfl (by simp) (by simp) fun o _ hm => absurd hm (hkeep o)
  · rename_i hne
    refine h.advance _ hrecord rfl ?_ (by simp) fun o _ hm => absurd hm (hkeep o)
    rintro t ht hfreeing
    exact hne (by rw [ht, Loop.freeing.inj hfreeing]; rfl)

/-- The pointer is cleared, which still refers to the record. -/
theorem compared_inv (h : Inv s) {p : ℕ} (hloop : s.loop = .compared p)
    (hlast : s.last.map Ptr.addr = some p) (hload : ∀ who, s.inside ≠ .load who) :
    Inv { s with last := none, loop := .freeing p } := by
  obtain ⟨t, ht, htp⟩ := Option.map_eq_some_iff.1 hlast
  have hrecord : s.loop.record = some p := by rw [hloop]; rfl
  have hmay : ∀ q, State.MayExpire { s with last := none, loop := .freeing p } q →
      s.MayExpire q ∧ q ≠ p := by
    intro q hq
    have harmed : s.armed q = true := hq.armed (.inr (.inr rfl))
    exact ⟨.inl harmed, h.armed_of_ne harmed hrecord⟩
  have hnotlast : ∀ q g, q ≠ p → s.last ≠ some ⟨q, g⟩ := by
    intro q g hqp hq
    rw [ht] at hq
    cases Option.some.inj hq
    exact hqp htp
  refine ⟨⟨h.inert.zeroings, h.inert.writes⟩, h.armedLive, ?_, by simp, ?_, h.storing, ?_, ?_, ?_⟩
  · intro q hq
    cases Option.some.inj hq
    exact h.loopLive p hrecord
  · exact fun who hin => absurd hin (hload who)
  · intro o ho
    obtain ⟨r, hr, hcancelled, hgrab, hlatest, hm⟩ := h.own o ho
    exact ⟨r, hr, hcancelled, hgrab, hlatest, .inl (hm.armed (.inr (.inl hloop)))⟩
  · exact fun o ho => ⟨by simp, (h.ownOther o ho).2⟩
  · intro q r hq hcancelled hm
    obtain ⟨hm', hqp⟩ := hmay q hm
    have hcov := h.covered q r hq hcancelled hm'
    have hnot := hnotlast q r.grab hqp
    cases hin : s.inside with
    | free =>
        simp only [State.Covered, hin] at hcov
        exact absurd hcov.1 hnot
    | set o => simpa only [State.Covered, hin] using hcov
    | test who =>
        cases who with
        | grab o =>
            simp only [State.Covered, hin] at hcov ⊢
            exact .inl (hcov.resolve_right hnot)
        | release =>
            simp only [State.Covered, hin] at hcov
            exact absurd hcov.1 hnot
    | load who => exact absurd hin (hload who)
    | store who target =>
        cases who with
        | grab o => simpa only [State.Covered, hin] using hcov
        | release =>
            simp only [State.Covered, hin] at hcov
            exact absurd hcov.1 hnot

/-- The record is freed, which no one has loaded. -/
theorem freeing_inv (h : Inv s) {p : ℕ} (hloop : s.loop = .freeing p)
    (hstore : ∀ who target, s.inside = .store who target → target.map Ptr.addr ≠ some p) :
    Inv { s with record := Function.update s.record p none, loop := .idle } := by
  have hrecord : s.loop.record = some p := by rw [hloop]; rfl
  have hrefers : ∀ t : Ptr, t.addr ≠ p → s.refersTo t = true →
      (Function.update s.record p none t.addr).any (fun r => decide (r.grab = t.grab)) = true := by
    intro t htp ht
    rw [Function.update_of_ne htp]
    exact ht
  have hmay : ∀ q, s.armed q = true → s.MayExpire q ∧ q ≠ p :=
    fun q hq => ⟨.inl hq, h.armed_of_ne hq hrecord⟩
  refine ⟨⟨h.inert.zeroings, h.inert.writes⟩, ?_, by simp [Loop.record], ?_, h.loading, ?_, ?_,
    h.ownOther, ?_⟩
  · intro q hq
    change (Function.update s.record p none q).isSome
    rw [Function.update_of_ne (hmay q hq).2]
    exact h.armedLive q hq
  · intro t ht
    obtain ⟨hlive, hne⟩ := h.lastLive t ht
    refine ⟨hrefers t ?_ hlive, by simp⟩
    rintro rfl
    exact hne hloop
  · intro who target hin
    obtain ⟨t, rfl, hlive⟩ := h.storing who target hin
    refine ⟨t, rfl, hrefers t ?_ hlive⟩
    rintro rfl
    exact hstore who _ hin rfl
  · intro o ho
    obtain ⟨r, hr, hcancelled, hgrab, hlatest, hm⟩ := h.own o ho
    have hop : o.addr ≠ p := by
      rintro rfl
      exact h.not_mayExpire (.inr (.inr hloop)) hm
    exact ⟨r, (Function.update_of_ne hop _ _).trans hr, hcancelled, hgrab, hlatest,
      .inl (hm.armed (.inr (.inr hloop)))⟩
  · intro q r hq hcancelled hm
    have harmed : s.armed q = true := hm.armed (p := p) (.inl rfl)
    change Function.update s.record p none q = some r at hq
    rw [Function.update_of_ne (hmay q harmed).2] at hq
    exact h.covered q r hq hcancelled (.inl harmed)

theorem loopStep_inv (h : Inv s) (hok : Event.loop.Separate s) (hs : loopStep s = some s') :
    Inv s' := by
  unfold loopStep at hs
  simp only [Event.Separate] at hok
  split at hs
  · simp at hs
  · rename_i p hloop
    obtain ⟨r, hr, rfl⟩ := Option.map_eq_some_iff.1 hs
    exact entered_inv h hloop hr
  · rename_i p hloop
    simp only [hloop] at hok
    simp only [Option.ite_none_right_eq_some, Option.map_eq_some_iff] at hs
    obtain ⟨hfree, r, hr, rfl⟩ := hs
    exact expiring_inv h hloop hfree hr hok
  · rename_i p hloop
    cases Option.some.inj hs
    exact returned_inv h hloop
  · rename_i p hloop
    cases Option.some.inj hs
    simp only [hloop] at hok
    refine compared_inv h hloop hok.1 fun who hin => ?_
    simp [hin] at hok
  · rename_i p hloop
    cases Option.some.inj hs
    simp only [hloop] at hok
    refine freeing_inv h hloop fun who target hin => ?_
    simpa only [hin] using hok

/-- **One step.**  A step of the event loop that keeps apart keeps the timeouts inert. -/
theorem step_inv {e : Event} (h : Inv s) (hok : e.Separate s) (hs : step s e = some s') :
    Inv s' := by
  cases e with
  | grab created =>
      simp only [step, Option.ite_none_right_eq_some] at hs
      obtain ⟨⟨hfree, hnew⟩, hs⟩ := hs
      refine grab_inv h hfree (fun p hp => ?_) hs
      simpa [hp] using hnew
  | release =>
      simp only [step, Option.ite_none_right_eq_some, Option.some.injEq] at hs
      obtain ⟨hfree, rfl⟩ := hs
      exact release_inv h hfree
  | inside => exact insideStep_inv h hs
  | fire p =>
      simp only [step, Option.ite_none_right_eq_some, Option.some.injEq] at hs
      obtain ⟨⟨hidle, hp⟩, rfl⟩ := hs
      exact fire_inv h hidle hp
  | loop => exact loopStep_inv h hok hs

end Steps

/-! ## Main result -/

/-- **Superseded timeouts are inert.**  For every interleaving of grabs and releases with the
event loop, as long as a timeout takes the mutex while its record is not cancelled or nothing
is held, clears the pointer while it still refers to the record and is not about to be
loaded, and frees the record while it is not loaded: no superseded timeout zeroes the count of
a later grab, and no write goes through the pointer to a record that has been freed. -/
theorem timeouts_inert (es : List Event)
    (h : Meets step (fun s e => e.Separate s) State.init es) :
    Always step State.Inert State.init es :=
  (always_of_meets (fun _ _ _ hi hok hs => step_inv hi hok hs) inv_init h).mono
    fun _ hi => hi.inert

/-- A timeout that is superseded before its parameter is read, and the one after it. -/
theorem timeouts_inert_superseded :
    Always step State.Inert State.init
      ([.grab (some 1), .inside, .inside, .fire 1, .grab (some 2)] ++ List.replicate 4 .inside ++
        List.replicate 3 .loop ++ [.fire 2] ++ List.replicate 5 .loop) :=
  timeouts_inert _ (by decide)

/-- The parameter is read before a second grab marks the record, and the mutex is taken after it:
the count and the lock of the second grab are gone. -/
theorem staleParameter_not_inert :
    ¬ ∀ es : List Event, Always step State.Inert State.init es := by
  intro hall
  have hrun : (run step State.init
      ([.grab (some 1), .inside, .inside, .fire 1, .loop, .grab (some 2)] ++
        List.replicate 4 .inside ++ [.loop])).map
          (fun s => (s.count, s.held, s.zeroings)) = some (0, false, [⟨0, 2, 2⟩]) := by decide
  obtain ⟨s', hs', hlog⟩ := Option.map_eq_some_iff.1 hrun
  have hzeroings := (Prod.mk.inj (Prod.mk.inj hlog).2).2
  have hinert := ((hall _).last hs').zeroings
  rw [hzeroings] at hinert
  exact absurd (hinert _ List.mem_cons_self) (by decide)

end Ril.WakeTimeout
