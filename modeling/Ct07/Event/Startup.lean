/-
# Starting the event loop

`RIL_startEventLoop` creates the dispatch thread with `s_startupMutex` locked, and waits on
`s_startupCond` until that thread has set up the lists of `ril_event` and announced itself.

* `startup` : the sections of both threads;
* `Kept` : where they are, and what they can rely on there;
* `startEventLoop_safe` : when the call returns, and that it does.
-/
import Ct07.Lib.Monitor
import Mathlib.Data.Nat.Notation

open PartialStep

namespace RilEvent.Startup

/-! ## Threads and sections -/

inductive Thread where
  /-- the thread that calls `RIL_startEventLoop` -/
  | main
  /-- the one that runs `eventLoop` -/
  | dispatch
  deriving DecidableEq

structure Data where
  /-- `pthread_create` has succeeded -/
  created : Bool
  /-- `ril_event_init` has returned -/
  initialised : Bool
  /-- `s_started` -/
  started : Bool
  deriving DecidableEq

def Data.init : Data := ⟨false, false, false⟩

inductive Event where
  /-- `s_started = 0` -/
  | reset
  | create (ok : Bool)
  | rilEventInit
  /-- `s_started = 1` -/
  | announce
  deriving DecidableEq

def Data.step (d : Data) : Event → Option Data
  | .reset => if d.created then none else some { d with started := false }
  | .create ok => if d.created then none else some { d with created := ok }
  | .rilEventInit =>
      if d.created && !d.initialised then some { d with initialised := true } else none
  | .announce => some { d with started := true }

/-- The locked section of `RIL_startEventLoop`. -/
def startSection (ok : Bool) : List (Monitor.Act Unit Event) :=
  if ok then [.perform (.create true), .await ()] else [.perform (.create false)]

/-- The locked section of `eventLoop`. -/
def announceSection : List (Monitor.Act Unit Event) := [.perform .announce, .broadcast]

def startup : Monitor.Component Thread Unit Event Data where
  holds := fun _ d => d.started
  step := Data.step
  enters := fun t d p =>
    match t, p with
    | .main, [.perform (.create true), .await ()] => !d.created
    | .main, [.perform (.create false)] => !d.created
    | .dispatch, [.perform .announce, .broadcast] => d.initialised && !d.started
    | _, _ => false
  free := fun t d e =>
    match t, e with
    | .main, .reset => !d.created
    | .dispatch, .rilEventInit => d.created && !d.initialised
    | _, _ => false

theorem startup_enters {t : Thread} {d : Data} {p : List (Monitor.Act Unit Event)}
    (h : startup.enters t d p = true) :
    (t = .main ∧ (∃ ok, p = startSection ok) ∧ d.created = false) ∨
      (t = .dispatch ∧ p = announceSection ∧ d.initialised = true ∧ d.started = false) := by
  simp only [startup] at h
  split at h
  · exact Or.inl ⟨rfl, ⟨true, rfl⟩, by simpa using h⟩
  · exact Or.inl ⟨rfl, ⟨false, rfl⟩, by simpa using h⟩
  · exact Or.inr ⟨rfl, rfl, by simpa using h⟩
  · exact nomatch h

theorem startup_free {t : Thread} {d : Data} {e : Event} (h : startup.free t d e = true) :
    (t = .main ∧ e = .reset ∧ d.created = false) ∨
      (t = .dispatch ∧ e = .rilEventInit ∧ d.created = true ∧ d.initialised = false) := by
  simp only [startup] at h
  split at h
  · exact Or.inl ⟨rfl, rfl, by simpa using h⟩
  · exact Or.inr ⟨rfl, rfl, by simpa using h⟩
  · exact nomatch h

/-- Only the announcement makes the condition true. -/
theorem quiet_of_ne {e : Event} (he : e ≠ .announce) : startup.Quiet e := by
  intro d d' g hs hholds
  simp only [startup] at hs hholds ⊢
  cases e with
  | reset =>
      simp only [Data.step, Option.ite_none_left_eq_some, Option.some.injEq] at hs
      obtain ⟨-, rfl⟩ := hs
      exact nomatch hholds
  | create ok =>
      simp only [Data.step, Option.ite_none_left_eq_some, Option.some.injEq] at hs
      obtain ⟨-, rfl⟩ := hs
      exact hholds
  | rilEventInit =>
      simp only [Data.step, Option.ite_none_right_eq_some, Option.some.injEq] at hs
      obtain ⟨-, rfl⟩ := hs
      exact hholds
  | announce => exact absurd rfl he

theorem startup_disciplined : startup.Disciplined where
  sections := fun t d p hp => by
    rcases startup_enters hp with ⟨-, ⟨ok, rfl⟩, -⟩ | ⟨-, rfl, -⟩
    · cases ok with
      | true => exact ⟨Or.inl (quiet_of_ne (by simp)), trivial⟩
      | false => exact ⟨Or.inl (quiet_of_ne (by simp)), trivial⟩
    · exact ⟨Or.inr rfl, trivial⟩
  free := fun t d e he => by
    rcases startup_free he with ⟨-, rfl, -⟩ | ⟨-, rfl, -⟩
    · exact quiet_of_ne (by simp)
    · exact quiet_of_ne (by simp)

/-! ## Where the threads are -/

/-- What the calling thread can rely on. -/
def MainFits (d : Data) : Monitor.Place Unit Event → Prop
  | .outside => d.created = true → d.started = true
  | .entering p => (∃ ok, p = startSection ok) ∧ d.created = false ∨
      p = [.await ()] ∧ d.created = true
  | .inside p => (∃ ok, p = startSection ok) ∧ d.created = false ∨
      p = [.await ()] ∧ d.created = true ∨ p = [] ∧ (d.created = true → d.started = true)
  | .waiting _ p => p = [] ∧ d.created = true

/-- What the dispatch thread can rely on. -/
def DispatchFits (d : Data) : Monitor.Place Unit Event → Prop
  | .outside => True
  | .entering p => p = announceSection ∧ d.initialised = true
  | .inside p => p = announceSection ∧ d.initialised = true ∨ p = [.broadcast] ∧ d.started = true ∨
      p = [] ∧ d.started = true
  | .waiting _ _ => False

theorem MainFits.congr {d d' : Data} {place : Monitor.Place Unit Event} (h : MainFits d place)
    (hcreated : d'.created = d.created) (hstarted : d'.started = d.started) :
    MainFits d' place := by
  unfold MainFits at h ⊢
  rw [hcreated, hstarted]
  exact h

abbrev State := Monitor.State Thread Unit Event Data

structure Kept (s : State) : Prop where
  sound : Monitor.Sound startup s
  initialised : s.data.initialised = true → s.data.created = true
  started : s.data.started = true → s.data.initialised = true
  main : MainFits s.data (s.place .main)
  dispatch : DispatchFits s.data (s.place .dispatch)

theorem kept_init : Kept (Monitor.State.init Data.init) where
  sound := Monitor.sound_init startup Data.init
  initialised := fun h => nomatch h
  started := fun h => nomatch h
  main := fun h => nomatch h
  dispatch := trivial

section Step

variable {s s' : State}

/-- The places after one of the threads has moved. -/
theorem moveTo_main (place : Monitor.Place Unit Event) :
    (s.moveTo .main place).place .main = place ∧
      (s.moveTo .main place).place .dispatch = s.place .dispatch := by
  constructor
  · rw [Monitor.moveTo_place, if_pos rfl]
  · rw [Monitor.moveTo_place, if_neg (by simp)]

theorem moveTo_dispatch (place : Monitor.Place Unit Event) :
    (s.moveTo .dispatch place).place .dispatch = place ∧
      (s.moveTo .dispatch place).place .main = s.place .main := by
  constructor
  · rw [Monitor.moveTo_place, if_pos rfl]
  · rw [Monitor.moveTo_place, if_neg (by simp)]

/-- A step of the calling thread. -/
theorem Kept.main_moves (h : Kept s) {place : Monitor.Place Unit Event} {owner : Option Thread}
    {data : Data}
    (hsound : Monitor.Sound startup { s.moveTo .main place with owner := owner, data := data })
    (hinit : data.initialised = s.data.initialised) (hstarted : data.started = s.data.started)
    (hcreated : s.data.created = true → data.created = true) (hplace : MainFits data place) :
    Kept { s.moveTo .main place with owner := owner, data := data } where
  sound := hsound
  initialised := fun hi => hcreated (h.initialised (hinit ▸ hi))
  started := fun hs => hinit ▸ h.started (hstarted ▸ hs)
  main := by
    show MainFits data ((s.moveTo .main place).place .main)
    rw [(moveTo_main place).1]
    exact hplace
  dispatch := by
    show DispatchFits data ((s.moveTo .main place).place .dispatch)
    rw [(moveTo_main place).2]
    have hdispatch := h.dispatch
    unfold DispatchFits at hdispatch ⊢
    rw [hinit, hstarted]
    exact hdispatch

/-- A step of the dispatch thread, other than its announcement. -/
theorem Kept.dispatch_moves (h : Kept s) {place : Monitor.Place Unit Event}
    {owner : Option Thread}
    (hsound : Monitor.Sound startup { s.moveTo .dispatch place with owner := owner })
    (hplace : DispatchFits s.data place) :
    Kept { s.moveTo .dispatch place with owner := owner } where
  sound := hsound
  initialised := h.initialised
  started := h.started
  main := by
    show MainFits s.data ((s.moveTo .dispatch place).place .main)
    rw [(moveTo_dispatch place).2]
    exact h.main
  dispatch := by
    show DispatchFits s.data ((s.moveTo .dispatch place).place .dispatch)
    rw [(moveTo_dispatch place).1]
    exact hplace

/-- **One step.** -/
theorem step_kept (h : Kept s) {e : Monitor.Event Thread Unit Event}
    (hs : Monitor.step startup s e = some s') : Kept s' := by
  have hsound := Monitor.step_sound startup_disciplined h.sound hs
  have hmain := h.main
  have hdispatch := h.dispatch
  cases Monitor.step_transition hs with
  | enter t p ht henters =>
      rcases startup_enters henters with ⟨rfl, hp, hcreated⟩ | ⟨rfl, rfl, hinit, -⟩
      · exact h.main_moves hsound rfl rfl id (Or.inl ⟨hp, hcreated⟩)
      · exact h.dispatch_moves hsound ⟨rfl, hinit⟩
  | lock t p ht howner =>
      cases t with
      | main =>
          rw [ht] at hmain
          rcases hmain with hp | hp
          · exact h.main_moves hsound rfl rfl id (Or.inl hp)
          · exact h.main_moves hsound rfl rfl id (Or.inr (Or.inl hp))
      | dispatch =>
          rw [ht] at hdispatch
          exact h.dispatch_moves hsound (Or.inl hdispatch)
  | unlock t ht =>
      cases t with
      | main =>
          rw [ht] at hmain
          rcases hmain with ⟨⟨ok, hp⟩, -⟩ | ⟨hp, -⟩ | ⟨-, hp⟩
          · cases ok <;> exact nomatch hp
          · exact nomatch hp
          · exact h.main_moves hsound rfl rfl id hp
      | dispatch => exact h.dispatch_moves hsound trivial
  | pass t g p ht hholds =>
      cases t with
      | main =>
          rw [ht] at hmain
          rcases hmain with ⟨⟨ok, hp⟩, -⟩ | ⟨hp, -⟩ | ⟨hp, -⟩
          · cases ok <;> exact nomatch hp
          · cases hp
            exact h.main_moves hsound rfl rfl id (Or.inr (Or.inr ⟨rfl, fun _ => hholds⟩))
          · exact nomatch hp
      | dispatch =>
          rw [ht] at hdispatch
          rcases hdispatch with ⟨hp, -⟩ | ⟨hp, -⟩ | ⟨hp, -⟩ <;> exact nomatch hp
  | sleep t g p ht hholds =>
      cases t with
      | main =>
          rw [ht] at hmain
          rcases hmain with ⟨⟨ok, hp⟩, -⟩ | ⟨hp, hcreated⟩ | ⟨hp, -⟩
          · cases ok <;> exact nomatch hp
          · cases hp
            exact h.main_moves hsound rfl rfl id ⟨rfl, hcreated⟩
          · exact nomatch hp
      | dispatch =>
          rw [ht] at hdispatch
          rcases hdispatch with ⟨hp, -⟩ | ⟨hp, -⟩ | ⟨hp, -⟩ <;> exact nomatch hp
  | perform t a p data ht hstep =>
      cases t with
      | main =>
          rw [ht] at hmain
          rcases hmain with ⟨⟨ok, hp⟩, hcreated⟩ | ⟨hp, -⟩ | ⟨hp, -⟩
          · -- the creation of the dispatch thread, which can fail
            cases ok with
            | true =>
                cases hp
                simp only [startup, Data.step, hcreated] at hstep
                cases Option.some.inj hstep
                exact h.main_moves hsound rfl rfl (fun _ => rfl) (Or.inr (Or.inl ⟨rfl, rfl⟩))
            | false =>
                cases hp
                simp only [startup, Data.step, hcreated] at hstep
                cases Option.some.inj hstep
                refine h.main_moves hsound rfl rfl (fun hc => ?_)
                  (Or.inr (Or.inr ⟨rfl, fun hc => nomatch hc⟩))
                exact absurd (hcreated.symm.trans hc) (by simp)
          · exact nomatch hp
          · exact nomatch hp
      | dispatch =>
          rw [ht] at hdispatch
          rcases hdispatch with ⟨hp, hinit⟩ | ⟨hp, -⟩ | ⟨hp, -⟩
          · cases hp
            cases Option.some.inj hstep
            refine ⟨hsound, h.initialised, fun _ => hinit, ?_, ?_⟩
            · show MainFits _ ((s.moveTo .dispatch (.inside [.broadcast])).place .main)
              rw [(moveTo_dispatch _).2]
              unfold MainFits at hmain ⊢
              split at hmain
              · exact fun _ => rfl
              · exact hmain
              · rcases hmain with hp | hp | ⟨hp, -⟩
                · exact Or.inl hp
                · exact Or.inr (Or.inl hp)
                · exact Or.inr (Or.inr ⟨hp, fun _ => rfl⟩)
              · exact hmain
            · show DispatchFits _ ((s.moveTo .dispatch (.inside [.broadcast])).place .dispatch)
              rw [(moveTo_dispatch _).1]
              exact Or.inr (Or.inl ⟨rfl, rfl⟩)
          · exact nomatch hp
          · exact nomatch hp
  | broadcast t p ht =>
      cases t with
      | main =>
          rw [ht] at hmain
          rcases hmain with ⟨⟨ok, hp⟩, -⟩ | ⟨hp, -⟩ | ⟨hp, -⟩
          · cases ok <;> exact nomatch hp
          · exact nomatch hp
          · exact nomatch hp
      | dispatch =>
          rw [ht] at hdispatch
          rcases hdispatch with ⟨hp, -⟩ | ⟨hp, hstarted⟩ | ⟨hp, -⟩
          · exact nomatch hp
          · cases hp
            refine ⟨hsound, h.initialised, h.started, ?_, ?_⟩
            · show MainFits s.data (s.place .main).woken
              cases hplace : s.place .main with
              | waiting g q =>
                  rw [hplace] at hmain
                  obtain ⟨rfl, hcreated⟩ := hmain
                  exact Or.inr ⟨rfl, hcreated⟩
              | outside | entering q | inside q =>
                  rw [hplace] at hmain
                  exact hmain
            · exact Or.inr (Or.inr ⟨rfl, hstarted⟩)
          · exact nomatch hp
  | wake t g p ht =>
      cases t with
      | main =>
          rw [ht] at hmain
          obtain ⟨rfl, hcreated⟩ := hmain
          exact h.main_moves hsound rfl rfl id (Or.inr ⟨rfl, hcreated⟩)
      | dispatch =>
          rw [ht] at hdispatch
          exact hdispatch.elim
  | free t a data ht hfree hstep =>
      rcases startup_free hfree with ⟨rfl, rfl, hcreated⟩ | ⟨rfl, rfl, hcreated, hinit⟩
      · simp only [startup, Data.step, hcreated] at hstep
        cases Option.some.inj hstep
        have hidle : s.data.initialised = false := by
          rw [Bool.eq_false_iff]
          intro hi
          exact absurd (hcreated.symm.trans (h.initialised hi)) (by simp)
        refine ⟨hsound, fun hi => ?_, by simp, ?_, ?_⟩
        · exact absurd (hidle.symm.trans hi) (by simp)
        · show MainFits _ (s.place .main)
          rw [ht]
          exact fun hc => nomatch hc
        · show DispatchFits _ (s.place .dispatch)
          -- the dispatch thread is not there yet
          unfold DispatchFits at hdispatch ⊢
          split at hdispatch
          · trivial
          · exact absurd (hidle.symm.trans hdispatch.2) (by simp)
          · have hnot : s.data.initialised = true := by
              rcases hdispatch with ⟨-, hi⟩ | ⟨-, hstarted⟩ | ⟨-, hstarted⟩
              · exact hi
              · exact h.started hstarted
              · exact h.started hstarted
            exact absurd (hidle.symm.trans hnot) (by simp)
          · exact hdispatch
      · simp only [startup, Data.step, hcreated, hinit] at hstep
        cases Option.some.inj hstep
        refine ⟨hsound, fun _ => rfl, fun _ => rfl, hmain.congr hcreated.symm rfl, ?_⟩
        show DispatchFits _ (s.place .dispatch)
        rw [ht]
        trivial

/-! ## Returning -/

def mainLeft : Monitor.Place Unit Event → ℕ
  | .outside => 0
  | .entering [.await _] => 6
  | .entering _ => 9
  | .inside [] => 1
  | .inside [.await _] => 5
  | .inside _ => 8
  | .waiting _ _ => 3

def dispatchLeft (d : Data) : Monitor.Place Unit Event → ℕ
  | .outside => if d.started then 0 else if d.initialised then 18 else 20
  | .entering _ => 16
  | .inside [] => 2
  | .inside [.broadcast] => 12
  | .inside _ => 14
  | .waiting _ _ => 0

/-- A bound on the steps that the two threads have left before the call has returned and the
dispatch thread is on its way. -/
def stepsLeft (s : State) : ℕ :=
  mainLeft (s.place .main) + dispatchLeft s.data (s.place .dispatch)

theorem mainLeft_woken (place : Monitor.Place Unit Event)
    (h : ∀ g p, place = .waiting g p → p = []) : mainLeft place.woken ≤ mainLeft place + 3 := by
  cases place with
  | waiting g p =>
      rw [h g p rfl]
      exact Nat.le_refl _
  | outside | entering p | inside p => exact Nat.le_add_right _ 3

theorem stepsLeft_main (place : Monitor.Place Unit Event) (owner : Option Thread) (data : Data) :
    stepsLeft { s.moveTo .main place with owner := owner, data := data } =
      mainLeft place + dispatchLeft data (s.place .dispatch) := by
  unfold stepsLeft
  show mainLeft ((s.moveTo .main place).place .main) +
    dispatchLeft data ((s.moveTo .main place).place .dispatch) = _
  rw [(moveTo_main place).1, (moveTo_main place).2]

theorem stepsLeft_dispatch (place : Monitor.Place Unit Event) (owner : Option Thread)
    (data : Data) :
    stepsLeft { s.moveTo .dispatch place with owner := owner, data := data } =
      mainLeft (s.place .main) + dispatchLeft data place := by
  unfold stepsLeft
  show mainLeft ((s.moveTo .dispatch place).place .main) +
    dispatchLeft data ((s.moveTo .dispatch place).place .dispatch) = _
  rw [(moveTo_dispatch place).1, (moveTo_dispatch place).2]

/-- A call is in progress, or has created the thread. -/
def Begun (s : State) : Prop := s.place .main = .outside → s.data.created = true

/-- The thread was woken for no reason. -/
def IsWake : Monitor.Event Thread Unit Event → Prop
  | .wake _ => True
  | _ => False

/-- A step of a thread is one step less, and a thread that is woken for no reason has three steps
to do again. -/
theorem step_stepsLeft (h : Kept s) (hbegun : Begun s) {e : Monitor.Event Thread Unit Event}
    (hs : Monitor.step startup s e = some s') :
    (IsWake e → stepsLeft s' ≤ stepsLeft s + 3) ∧ (¬ IsWake e → stepsLeft s' < stepsLeft s) := by
  have hmain := h.main
  have hdispatch := h.dispatch
  have hsame : stepsLeft s = mainLeft (s.place .main) + dispatchLeft s.data (s.place .dispatch) :=
    rfl
  cases Monitor.step_transition hs with
  | enter t p ht henters =>
      refine ⟨fun hw => hw.elim, fun _ => ?_⟩
      rcases startup_enters henters with ⟨rfl, -, hcreated⟩ | ⟨rfl, rfl, hinit, hstarted⟩
      · exact absurd (hcreated.symm.trans (hbegun ht)) (by simp)
      · refine Nat.lt_of_le_of_lt (Nat.le_of_eq (stepsLeft_dispatch _ s.owner s.data)) ?_
        rw [hsame, ht]
        simp [dispatchLeft, hinit, hstarted]
  | lock t p ht howner =>
      refine ⟨fun hw => hw.elim, fun _ => ?_⟩
      cases t with
      | main =>
          refine Nat.lt_of_le_of_lt (Nat.le_of_eq (stepsLeft_main _ (some .main) s.data)) ?_
          rw [hsame, ht]
          rw [ht] at hmain
          rcases hmain with ⟨⟨ok, rfl⟩, -⟩ | ⟨rfl, -⟩
          · cases ok <;> exact Nat.add_lt_add_right (by decide) _
          · exact Nat.add_lt_add_right (by decide) _
      | dispatch =>
          refine Nat.lt_of_le_of_lt (Nat.le_of_eq (stepsLeft_dispatch _ (some .dispatch) s.data)) ?_
          rw [hsame, ht]
          rw [ht] at hdispatch
          rw [hdispatch.1]
          exact Nat.add_lt_add_left (show 14 < 16 by decide) _
  | unlock t ht =>
      refine ⟨fun hw => hw.elim, fun _ => ?_⟩
      cases t with
      | main =>
          refine Nat.lt_of_le_of_lt (Nat.le_of_eq (stepsLeft_main _ none s.data)) ?_
          rw [hsame, ht]
          exact Nat.add_lt_add_right (show 0 < 1 by decide) _
      | dispatch =>
          refine Nat.lt_of_le_of_lt (Nat.le_of_eq (stepsLeft_dispatch _ none s.data)) ?_
          rw [hsame, ht]
          rw [ht] at hdispatch
          rcases hdispatch with ⟨hp, -⟩ | ⟨hp, -⟩ | ⟨-, hstarted⟩
          · exact nomatch hp
          · exact nomatch hp
          · simp [dispatchLeft, hstarted]
  | pass t g p ht hholds =>
      refine ⟨fun hw => hw.elim, fun _ => ?_⟩
      cases t with
      | main =>
          refine Nat.lt_of_le_of_lt (Nat.le_of_eq (stepsLeft_main _ s.owner s.data)) ?_
          rw [hsame, ht]
          rw [ht] at hmain
          rcases hmain with ⟨⟨ok, hp⟩, -⟩ | ⟨hp, -⟩ | ⟨hp, -⟩
          · cases ok <;> exact nomatch hp
          · cases hp
            exact Nat.add_lt_add_right (show 1 < 5 by decide) _
          · exact nomatch hp
      | dispatch =>
          rw [ht] at hdispatch
          rcases hdispatch with ⟨hp, -⟩ | ⟨hp, -⟩ | ⟨hp, -⟩ <;> exact nomatch hp
  | sleep t g p ht hholds =>
      refine ⟨fun hw => hw.elim, fun _ => ?_⟩
      cases t with
      | main =>
          refine Nat.lt_of_le_of_lt (Nat.le_of_eq (stepsLeft_main _ none s.data)) ?_
          rw [hsame, ht]
          rw [ht] at hmain
          rcases hmain with ⟨⟨ok, hp⟩, -⟩ | ⟨hp, -⟩ | ⟨hp, -⟩
          · cases ok <;> exact nomatch hp
          · cases hp
            exact Nat.add_lt_add_right (show 3 < 5 by decide) _
          · exact nomatch hp
      | dispatch =>
          rw [ht] at hdispatch
          rcases hdispatch with ⟨hp, -⟩ | ⟨hp, -⟩ | ⟨hp, -⟩ <;> exact nomatch hp
  | perform t a p data ht hstep =>
      refine ⟨fun hw => hw.elim, fun _ => ?_⟩
      cases t with
      | main =>
          refine Nat.lt_of_le_of_lt (Nat.le_of_eq (stepsLeft_main _ s.owner data)) ?_
          rw [hsame, ht]
          rw [ht] at hmain
          rcases hmain with ⟨⟨ok, hp⟩, hcreated⟩ | ⟨hp, -⟩ | ⟨hp, -⟩
          · cases ok <;> cases hp <;> simp only [startup, Data.step, hcreated] at hstep <;>
              cases Option.some.inj hstep <;> exact Nat.add_lt_add_right (by decide) _
          · exact nomatch hp
          · exact nomatch hp
      | dispatch =>
          refine Nat.lt_of_le_of_lt (Nat.le_of_eq (stepsLeft_dispatch _ s.owner data)) ?_
          rw [hsame, ht]
          rw [ht] at hdispatch
          rcases hdispatch with ⟨hp, -⟩ | ⟨hp, -⟩ | ⟨hp, -⟩
          · cases hp
            exact Nat.add_lt_add_left (show 12 < 14 by decide) _
          · exact nomatch hp
          · exact nomatch hp
  | broadcast t p ht =>
      refine ⟨fun hw => hw.elim, fun _ => ?_⟩
      cases t with
      | main =>
          rw [ht] at hmain
          rcases hmain with ⟨⟨ok, hp⟩, -⟩ | ⟨hp, -⟩ | ⟨hp, -⟩
          · cases ok <;> exact nomatch hp
          · exact nomatch hp
          · exact nomatch hp
      | dispatch =>
          rw [ht] at hdispatch
          rcases hdispatch with ⟨hp, -⟩ | ⟨hp, -⟩ | ⟨hp, -⟩
          · exact nomatch hp
          · cases hp
            -- the broadcast itself is worth more steps than the one it wakes has to do again
            have hwoken : mainLeft (s.place .main).woken ≤ mainLeft (s.place .main) + 3 := by
              refine mainLeft_woken _ fun g p hp => ?_
              rw [hp] at hmain
              exact hmain.1
            rw [hsame, ht]
            show mainLeft (s.place .main).woken + 2 < mainLeft (s.place .main) + 12
            omega
          · exact nomatch hp
  | wake t g p ht =>
      refine ⟨fun _ => ?_, fun hw => absurd trivial hw⟩
      cases t with
      | main =>
          refine Nat.le_trans (Nat.le_of_eq (stepsLeft_main _ s.owner s.data)) ?_
          rw [hsame, ht]
          rw [ht] at hmain
          rw [hmain.1]
          show 6 + _ ≤ 3 + _ + 3
          omega
      | dispatch =>
          rw [ht] at hdispatch
          exact hdispatch.elim
  | free t a data ht hfree hstep =>
      refine ⟨fun hw => hw.elim, fun _ => ?_⟩
      rcases startup_free hfree with ⟨rfl, -, hcreated⟩ | ⟨rfl, rfl, hcreated, hinit⟩
      · exact absurd (hcreated.symm.trans (hbegun ht)) (by simp)
      · have hstarted : s.data.started = false := by
          rw [Bool.eq_false_iff]
          intro hs
          exact absurd (hinit.symm.trans (h.started hs)) (by simp)
        simp only [startup, Data.step, hcreated, hinit] at hstep
        cases Option.some.inj hstep
        rw [hsame, ht]
        show mainLeft (s.place .main) + dispatchLeft _ (s.place .dispatch) < _
        rw [ht]
        simp [dispatchLeft, hinit, hstarted]

end Step

/-! ## Main result -/

/-- Once the dispatch thread has been created, `RIL_startEventLoop` only returns when that thread
has set up the lists and announced itself; a call that has begun takes a bounded number of steps,
apart from those that are repeated when it is woken for no reason; and it does not stop before it
has returned. -/
structure StartsLoop (s : State) : Prop where
  ready : s.data.created = true → s.place .main = .outside →
    s.data.started = true ∧ s.data.initialised = true
  bounded : Begun s → ∀ e s', Monitor.step startup s e = some s' →
    (IsWake e → stepsLeft s' ≤ stepsLeft s + 3) ∧ (¬ IsWake e → stepsLeft s' < stepsLeft s)
  returns : (∀ e, ¬ IsWake e → Monitor.step startup s e = none) → s.place .main = .outside

/-- When nothing can happen any more, the call has returned. -/
theorem Kept.returns {s : State} (h : Kept s)
    (hstuck : ∀ e, ¬ IsWake e → Monitor.step startup s e = none) : s.place .main = .outside := by
  have hmain := h.main
  have hdispatch := h.dispatch
  rcases h.sound.stuck (fun t => hstuck (.lock t) id) (fun t => hstuck (.go t) id) with
    ⟨t, e, p, ht, hnone⟩ | hall
  · cases t with
    | main =>
        rw [ht] at hmain
        rcases hmain with ⟨⟨ok, hp⟩, hcreated⟩ | ⟨hp, -⟩ | ⟨hp, -⟩
        · cases ok <;> cases hp <;> simp [startup, Data.step, hcreated] at hnone
        · exact nomatch hp
        · exact nomatch hp
    | dispatch =>
        rw [ht] at hdispatch
        rcases hdispatch with ⟨hp, -⟩ | ⟨hp, -⟩ | ⟨hp, -⟩
        · cases hp
          exact nomatch hnone
        · exact nomatch hp
        · exact nomatch hp
  · rcases hall .main with hout | ⟨g, p, hplace, hasleep⟩
    · exact hout
    · exfalso
      rw [hplace] at hmain
      have hcreated := hmain.2
      have hstarted : s.data.started = false := hasleep
      rcases hall .dispatch with hout | ⟨g', p', hplace', -⟩
      · cases hinit : s.data.initialised with
        | false =>
            have hnone := hstuck (.free .dispatch .rilEventInit) id
            simp [Monitor.step, hout, startup, Data.step, hcreated, hinit] at hnone
        | true =>
            have hnone := hstuck (.enter .dispatch announceSection) id
            simp [Monitor.step, hout, startup, announceSection, hinit, hstarted] at hnone
      · rw [hplace'] at hdispatch
        exact hdispatch

theorem Kept.startsLoop {s : State} (h : Kept s) : StartsLoop s where
  ready := by
    intro hcreated hout
    have hmain := h.main
    rw [hout] at hmain
    have hstarted : s.data.started = true := hmain hcreated
    exact ⟨hstarted, h.started hstarted⟩
  bounded := fun hbegun _ _ hs => step_stepsLeft h hbegun hs
  returns := h.returns

/-- **The event loop is started.**  However the two threads interleave, whether or not the dispatch
thread can be created, and whenever a thread is woken for no reason: a call of `RIL_startEventLoop`
that has created the thread returns only when the lists of `ril_event` are set up, and it always
returns. -/
theorem startEventLoop_safe (es : List (Monitor.Event Thread Unit Event)) :
    Always (Monitor.step startup) StartsLoop (Monitor.State.init Data.init) es :=
  (always_of_step (fun _ _ _ h hs => step_kept h hs) kept_init es).mono fun _ h => h.startsLoop

end RilEvent.Startup
