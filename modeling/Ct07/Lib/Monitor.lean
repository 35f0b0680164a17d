/-
# Monitors: a mutex with a condition variable

A thread that changes shared data locks a mutex, runs a section of actions, and unlocks it.  To
wait for a condition it gives the mutex up, sleeps until it is woken, takes the mutex again and
tests the condition once more; it can also be woken for no reason.  A thread that makes a condition
true wakes all that sleep, in an action of its own.

* `Component`, `step` : the sections over a partial step function of the data;
* `Sound` : one thread at a time is inside, and a thread that sleeps although its condition holds
  is going to be woken by the one inside;
* `step_sound`, `Sound.stuck` : no wake-up is lost;
* `step_data` : the data only take steps of the component.
-/
import Mathlib.Logic.Function.Basic
import Ct07.Lib.Run

open PartialStep

namespace Monitor

/-! ## Sections -/

/-- What a thread does inside.  `γ` are the conditions, and `ε` the steps of the data. -/
inductive Act (γ ε : Type*) where
  /-- `while (!g) pthread_cond_wait(..)` -/
  | await (g : γ)
  | perform (e : ε)
  | broadcast

/-- Where a thread is, with what it has still to do. -/
inductive Place (γ ε : Type*) where
  | outside
  /-- in front of the mutex, at first or after it was woken -/
  | entering (p : List (Act γ ε))
  | inside (p : List (Act γ ε))
  | waiting (g : γ) (p : List (Act γ ε))

variable {τ γ ε σ : Type*}

/-- What is left of the section, behind the condition that is waited for. -/
def Place.rest : Place γ ε → List (Act γ ε)
  | .outside => []
  | .entering p => p
  | .inside p => p
  | .waiting _ p => p

/-- A place after a broadcast. -/
def Place.woken : Place γ ε → Place γ ε
  | .waiting g p => .entering (.await g :: p)
  | place => place

/-- The data and the sections over them. -/
structure Component (τ γ ε σ : Type*) where
  holds : γ → σ → Bool
  step : σ → ε → Option σ
  /-- the sections that a thread can enter -/
  enters : τ → σ → List (Act γ ε) → Bool
  /-- the steps that a thread can take without the mutex -/
  free : τ → σ → ε → Bool

structure State (τ γ ε σ : Type*) where
  data : σ
  owner : Option τ
  place : τ → Place γ ε

def State.init (data : σ) : State τ γ ε σ := ⟨data, none, fun _ => .outside⟩

inductive Event (τ γ ε : Type*) where
  | enter (t : τ) (p : List (Act γ ε))
  | lock (t : τ)
  /-- the next action of the thread inside, or its `unlock` -/
  | go (t : τ)
  /-- a thread is woken for no reason -/
  | wake (t : τ)
  | free (t : τ) (e : ε)

section Step

variable [DecidableEq τ] (C : Component τ γ ε σ)

def State.moveTo (s : State τ γ ε σ) (t : τ) (place : Place γ ε) : State τ γ ε σ :=
  { s with place := Function.update s.place t place }

/-- The thread inside goes on. -/
def State.goOn (s : State τ γ ε σ) (t : τ) : List (Act γ ε) → Option (State τ γ ε σ)
  | [] => some { s.moveTo t .outside with owner := none }
  | .await g :: p =>
      if C.holds g s.data then some (s.moveTo t (.inside p))
      else some { s.moveTo t (.waiting g p) with owner := none }
  | .perform e :: p => (C.step s.data e).map fun data =>
      { s.moveTo t (.inside p) with data := data }
  | .broadcast :: p =>
      some { s with place := Function.update (fun u => (s.place u).woken) t (.inside p) }

def step (s : State τ γ ε σ) : Event τ γ ε → Option (State τ γ ε σ)
  | .enter t p =>
      match s.place t with
      | .outside => if C.enters t s.data p then some (s.moveTo t (.entering p)) else none
      | _ => none
  | .lock t =>
      match s.place t, s.owner with
      | .entering p, none => some { s.moveTo t (.inside p) with owner := some t }
      | _, _ => none
  | .go t =>
      match s.place t with
      | .inside p => s.goOn C t p
      | _ => none
  | .wake t =>
      match s.place t with
      | .waiting g p => some (s.moveTo t (.entering (.await g :: p)))
      | _ => none
  | .free t e =>
      match s.place t with
      | .outside =>
          if C.free t s.data e then (C.step s.data e).map fun data => { s with data := data }
          else none
      | _ => none

end Step

/-! ## What one step can do -/

section Transitions

variable [DecidableEq τ] (C : Component τ γ ε σ)

/-- The steps, by what they do. -/
inductive Transition (s : State τ γ ε σ) : Event τ γ ε → State τ γ ε σ → Prop
  | enter (t : τ) (p : List (Act γ ε)) (hplace : s.place t = .outside)
      (henters : C.enters t s.data p = true) :
      Transition s (.enter t p) (s.moveTo t (.entering p))
  | lock (t : τ) (p : List (Act γ ε)) (hplace : s.place t = .entering p)
      (howner : s.owner = none) :
      Transition s (.lock t) { s.moveTo t (.inside p) with owner := some t }
  | unlock (t : τ) (hplace : s.place t = .inside []) :
      Transition s (.go t) { s.moveTo t .outside with owner := none }
  | pass (t : τ) (g : γ) (p : List (Act γ ε)) (hplace : s.place t = .inside (.await g :: p))
      (hholds : C.holds g s.data = true) : Transition s (.go t) (s.moveTo t (.inside p))
  | sleep (t : τ) (g : γ) (p : List (Act γ ε)) (hplace : s.place t = .inside (.await g :: p))
      (hholds : C.holds g s.data = false) :
      Transition s (.go t) { s.moveTo t (.waiting g p) with owner := none }
  | perform (t : τ) (e : ε) (p : List (Act γ ε)) (data : σ)
      (hplace : s.place t = .inside (.perform e :: p)) (hstep : C.step s.data e = some data) :
      Transition s (.go t) { s.moveTo t (.inside p) with data := data }
  | broadcast (t : τ) (p : List (Act γ ε)) (hplace : s.place t = .inside (.broadcast :: p)) :
      Transition s (.go t)
        { s with place := Function.update (fun u => (s.place u).woken) t (.inside p) }
  | wake (t : τ) (g : γ) (p : List (Act γ ε)) (hplace : s.place t = .waiting g p) :
      Transition s (.wake t) (s.moveTo t (.entering (.await g :: p)))
  | free (t : τ) (e : ε) (data : σ) (hplace : s.place t = .outside)
      (hfree : C.free t s.data e = true) (hstep : C.step s.data e = some data) :
      Transition s (.free t e) { s with data := data }

variable {C} {s s' : State τ γ ε σ}

theorem goOn_transition {t : τ} {p : List (Act γ ε)} (hplace : s.place t = .inside p)
    (hs : s.goOn C t p = some s') : Transition C s (.go t) s' := by
  cases p with
  | nil =>
      cases Option.some.inj hs
      exact .unlock t hplace
  | cons a p =>
      cases a with
      | await g =>
          rw [State.goOn] at hs
          split at hs
          · rename_i hholds
            cases Option.some.inj hs
            exact .pass t g p hplace hholds
          · rename_i hholds
            cases Option.some.inj hs
            exact .sleep t g p hplace (Bool.eq_false_iff.2 hholds)
      | perform e =>
          rw [State.goOn, Option.map_eq_some_iff] at hs
          obtain ⟨data, hdata, rfl⟩ := hs
          exact .perform t e p data hplace hdata
      | broadcast =>
          cases Option.some.inj hs
          exact .broadcast t p hplace

theorem step_transition {e : Event τ γ ε} (hs : step C s e = some s') :
    Transition C s e s' := by
  cases e with
  | enter t p =>
      rw [step] at hs
      split at hs
      · rename_i hplace
        rw [Option.ite_none_right_eq_some] at hs
        obtain ⟨henters, hs⟩ := hs
        cases Option.some.inj hs
        exact .enter t p hplace henters
      · exact nomatch hs
  | lock t =>
      rw [step] at hs
      split at hs
      · rename_i p hplace howner
        cases Option.some.inj hs
        exact .lock t p hplace howner
      · exact nomatch hs
  | go t =>
      rw [step] at hs
      split at hs
      · rename_i p hplace
        exact goOn_transition hplace hs
      · exact nomatch hs
  | wake t =>
      rw [step] at hs
      split at hs
      · rename_i g p hplace
        cases Option.some.inj hs
        exact .wake t g p hplace
      · exact nomatch hs
  | free t e =>
      rw [step] at hs
      split at hs
      · rename_i hplace
        rw [Option.ite_none_right_eq_some, Option.map_eq_some_iff] at hs
        obtain ⟨hfree, data, hdata, rfl⟩ := hs
        exact .free t e data hplace hfree hdata
      · exact nomatch hs

/-- **The data.**  They stay, or take a step of the component. -/
theorem step_data {e : Event τ γ ε} (hs : step C s e = some s') :
    s'.data = s.data ∨ ∃ a, C.step s.data a = some s'.data := by
  cases step_transition hs with
  | perform t a p data _ hstep => exact Or.inr ⟨a, hstep⟩
  | free t a data _ _ hstep => exact Or.inr ⟨a, hstep⟩
  | enter | lock | unlock | pass | sleep | broadcast | wake => exact Or.inl rfl

end Transitions

/-! ## Discipline -/

/-- There is a broadcast before the mutex is given up. -/
def announced : List (Act γ ε) → Bool
  | .broadcast :: _ => true
  | .perform _ :: p => announced p
  | _ => false

/-- The step makes no condition true. -/
def Component.Quiet (C : Component τ γ ε σ) (e : ε) : Prop :=
  ∀ s s' g, C.step s e = some s' → C.holds g s' = true → C.holds g s = true

/-- A step that can make a condition true is announced. -/
def Component.Careful (C : Component τ γ ε σ) : List (Act γ ε) → Prop
  | [] => True
  | .perform e :: p => (C.Quiet e ∨ announced p = true) ∧ C.Careful p
  | .await _ :: p => C.Careful p
  | .broadcast :: p => C.Careful p

/-- What makes a condition true is announced, and done inside. -/
structure Component.Disciplined (C : Component τ γ ε σ) : Prop where
  sections : ∀ t s p, C.enters t s p = true → C.Careful p
  free : ∀ t s e, C.free t s e = true → C.Quiet e

/-- **No lost wake-up.** -/
structure Sound (C : Component τ γ ε σ) (s : State τ γ ε σ) : Prop where
  owner : ∀ t p, s.place t = .inside p → s.owner = some t
  inside : ∀ t, s.owner = some t → ∃ p, s.place t = .inside p
  careful : ∀ t, C.Careful (s.place t).rest
  /-- who sleeps although its condition holds is going to be woken -/
  announced : ∀ t g p, s.place t = .waiting g p → C.holds g s.data = true →
    ∃ u q, s.place u = .inside q ∧ announced q = true

section Sound

variable {C : Component τ γ ε σ} {s s' : State τ γ ε σ}

theorem sound_init (C : Component τ γ ε σ) (data : σ) :
    Sound C (State.init data : State τ γ ε σ) where
  owner := fun t p hp => by simp [State.init] at hp
  inside := fun t ht => by simp [State.init] at ht
  careful := fun t => trivial
  announced := fun t g p hp => by simp [State.init] at hp

/-- Two threads that are inside are the same. -/
theorem Sound.unique (h : Sound C s) {t u : τ} {p q : List (Act γ ε)}
    (ht : s.place t = .inside p) (hu : s.place u = .inside q) : t = u :=
  Option.some.inj ((h.owner t p ht).symm.trans (h.owner u q hu))

/-- While the thread inside has announced nothing, who sleeps has to sleep. -/
theorem Sound.asleep (h : Sound C s) {t : τ} {p : List (Act γ ε)} (ht : s.place t = .inside p)
    (hp : Monitor.announced p = false) {u : τ} {g : γ} {q : List (Act γ ε)}
    (hu : s.place u = .waiting g q) : C.holds g s.data = false := by
  rw [Bool.eq_false_iff]
  intro hholds
  obtain ⟨v, r, hv, hr⟩ := h.announced u g q hu hholds
  cases h.unique ht hv
  cases ht.symm.trans hv
  exact absurd (hp.symm.trans hr) (by simp)

/-- With nobody inside, who sleeps has to sleep. -/
theorem Sound.asleep_of_free (h : Sound C s) (howner : s.owner = none) {u : τ} {g : γ}
    {q : List (Act γ ε)} (hu : s.place u = .waiting g q) : C.holds g s.data = false := by
  rw [Bool.eq_false_iff]
  intro hholds
  obtain ⟨v, r, hv, -⟩ := h.announced u g q hu hholds
  rw [h.owner v r hv] at howner
  exact nomatch howner

theorem careful_woken {place : Place γ ε} (h : C.Careful place.rest) :
    C.Careful place.woken.rest := by
  cases place with
  | waiting g p => exact h
  | outside | entering p | inside p => exact h

variable [DecidableEq τ]

/-- A place after a thread has moved. -/
theorem moveTo_place {t u : τ} {place : Place γ ε} :
    (s.moveTo t place).place u = if u = t then place else s.place u := by
  by_cases hu : u = t
  · subst hu
    rw [if_pos rfl]
    exact Function.update_self _ _ _
  · rw [if_neg hu]
    exact Function.update_of_ne hu _ _

theorem Sound.careful_moveTo (h : Sound C s) {t : τ} {place : Place γ ε}
    (hplace : C.Careful place.rest) (u : τ) : C.Careful ((s.moveTo t place).place u).rest := by
  rw [moveTo_place]
  split
  · exact hplace
  · exact h.careful u

/-- Who is inside after a thread has left the mutex. -/
theorem Sound.not_inside_of_leave (h : Sound C s) {t : τ} {p : List (Act γ ε)}
    (ht : s.place t = .inside p) {place : Place γ ε} (hplace : ∀ q, place ≠ .inside q) (u : τ)
    (q : List (Act γ ε)) : (s.moveTo t place).place u ≠ .inside q := by
  rw [moveTo_place]
  intro hu
  split at hu
  · exact hplace q hu
  · rename_i hne
    exact hne (h.unique hu ht)

/-- A thread that was outside the mutex before and after does not change who is inside. -/
theorem Sound.move_outside (h : Sound C s) {t : τ} {place : Place γ ε}
    (ht : ∀ q, s.place t ≠ .inside q) (hplace : ∀ q, place ≠ .inside q)
    (hcareful : C.Careful place.rest)
    (hwaiting : ∀ g p, place = .waiting g p → s.place t = .waiting g p) :
    Sound C (s.moveTo t place) where
  owner := fun u q hu => by
    rw [moveTo_place] at hu
    split at hu
    · exact absurd hu (hplace q)
    · exact h.owner u q hu
  inside := fun u hu => by
    obtain ⟨q, hq⟩ := h.inside u hu
    refine ⟨q, ?_⟩
    have hne : u ≠ t := by
      rintro rfl
      exact ht q hq
    rw [moveTo_place, if_neg hne]
    exact hq
  careful := h.careful_moveTo hcareful
  announced := fun u g p hu hholds => by
    have hu' : s.place u = .waiting g p := by
      rw [moveTo_place] at hu
      split at hu
      · rename_i heq
        rw [heq]
        exact hwaiting g p hu
      · exact hu
    obtain ⟨v, q, hv, hq⟩ := h.announced u g p hu' hholds
    refine ⟨v, q, ?_, hq⟩
    have hne : v ≠ t := by
      rintro rfl
      exact ht q hv
    rw [moveTo_place, if_neg hne]
    exact hv

/-- The thread inside gives the mutex up, with nothing announced. -/
theorem Sound.leave (h : Sound C s) {t : τ} {p : List (Act γ ε)} (ht : s.place t = .inside p)
    (hp : Monitor.announced p = false) {place : Place γ ε} (hplace : ∀ q, place ≠ .inside q)
    (hcareful : C.Careful place.rest)
    (hwaiting : ∀ g q, place = .waiting g q → C.holds g s.data = false) :
    Sound C { s.moveTo t place with owner := none } where
  owner := fun u q hu => absurd hu (h.not_inside_of_leave ht hplace u q)
  inside := fun u hu => nomatch hu
  careful := h.careful_moveTo hcareful
  announced := fun u g q hu hholds => by
    have hfalse : C.holds g s.data = false := by
      change (s.moveTo t place).place u = _ at hu
      rw [moveTo_place] at hu
      split at hu
      · exact hwaiting g q hu
      · exact h.asleep ht hp hu
    exact absurd (hfalse.symm.trans hholds) (by simp)

/-- The thread inside goes on inside; what it has made true is announced. -/
theorem Sound.stay (h : Sound C s) {t : τ} {p q : List (Act γ ε)} (ht : s.place t = .inside p)
    {data : σ} (hcareful : C.Careful q)
    (hannounced : ∀ u g r, s.place u = .waiting g r → C.holds g data = true →
      Monitor.announced q = true) :
    Sound C { s.moveTo t (.inside q) with data := data } where
  owner := fun u r hu => by
    change (s.moveTo t _).place u = _ at hu
    rw [moveTo_place] at hu
    split at hu
    · rename_i heq
      rw [heq]
      exact h.owner t p ht
    · exact h.owner u r hu
  inside := fun u hu => by
    obtain ⟨r, hr⟩ := h.inside u hu
    cases h.unique ht hr
    exact ⟨q, Function.update_self _ _ _⟩
  careful := h.careful_moveTo hcareful
  announced := fun u g r hu hholds => by
    change (s.moveTo t _).place u = _ at hu
    rw [moveTo_place] at hu
    split at hu
    · exact nomatch hu
    · exact ⟨t, q, Function.update_self _ _ _, hannounced u g r hu hholds⟩

/-- **One step.** -/
theorem step_sound (hC : C.Disciplined) (h : Sound C s) {e : Event τ γ ε}
    (hs : step C s e = some s') : Sound C s' := by
  cases step_transition hs with
  | enter t p hplace henters =>
      exact h.move_outside (by simp [hplace]) (by simp) (hC.sections t s.data p henters) (by simp)
  | lock t p hplace howner =>
      have hcareful := h.careful t
      rw [hplace] at hcareful
      refine ⟨fun u q hu => ?_, fun u hu => ?_, h.careful_moveTo hcareful,
        fun u g q hu hholds => ?_⟩
      · change (s.moveTo t _).place u = _ at hu
        rw [moveTo_place] at hu
        split at hu
        · rename_i heq
          rw [heq]
        · exact absurd (howner.symm.trans (h.owner u q hu)) (by simp)
      · cases Option.some.inj hu
        exact ⟨p, Function.update_self _ _ _⟩
      · change (s.moveTo t _).place u = _ at hu
        rw [moveTo_place] at hu
        split at hu
        · exact nomatch hu
        · exact absurd ((h.asleep_of_free howner hu).symm.trans hholds) (by simp)
  | unlock t hplace => exact h.leave hplace rfl (by simp) trivial (by simp)
  | pass t g p hplace hholds =>
      have hcareful := h.careful t
      rw [hplace] at hcareful
      refine h.stay hplace hcareful fun u g' r hu hholds' => ?_
      exact absurd ((h.asleep hplace rfl hu).symm.trans hholds') (by simp)
  | sleep t g p hplace hholds =>
      have hcareful := h.careful t
      rw [hplace] at hcareful
      refine h.leave hplace rfl (by simp) hcareful fun g' q heq => ?_
      cases heq
      exact hholds
  | perform t a p data hplace hstep =>
      have hcareful := h.careful t
      rw [hplace] at hcareful
      obtain ⟨hquiet, hcareful⟩ := hcareful
      refine h.stay hplace hcareful fun u g r hu hholds => ?_
      rcases hquiet with hquiet | hannounced
      · -- the condition held before, so the thread inside had announced it
        have hbefore := hquiet s.data data g hstep hholds
        cases hp : announced p with
        | true => rfl
        | false =>
            have hasleep := h.asleep hplace hp hu
            exact absurd (hasleep.symm.trans hbefore) (by simp)
      · exact hannounced
  | broadcast t p hplace =>
      have hcareful := h.careful t
      rw [hplace] at hcareful
      have hwoken : ∀ u, u ≠ t →
          Function.update (fun u => (s.place u).woken) t (.inside p) u = (s.place u).woken :=
        fun u hu => Function.update_of_ne hu _ _
      refine ⟨fun u q hu => ?_, fun u hu => ?_, fun u => ?_, fun u g q hu _ => ?_⟩
      · by_cases hut : u = t
        · rw [hut]
          exact h.owner t _ hplace
        · simp only [hwoken u hut] at hu
          cases hplaceu : s.place u with
          | inside r => exact h.owner u r hplaceu
          | outside | entering r | waiting g r =>
              rw [hplaceu] at hu
              exact nomatch hu
      · obtain ⟨r, hr⟩ := h.inside u hu
        cases h.unique hplace hr
        refine ⟨p, ?_⟩
        show Function.update (fun u => (s.place u).woken) t (.inside p) t = .inside p
        rw [Function.update_self]
      · by_cases hut : u = t
        · subst hut
          simp only [Function.update_self]
          exact hcareful
        · simp only [hwoken u hut]
          exact careful_woken (h.careful u)
      · -- nobody sleeps any more
        by_cases hut : u = t
        · subst hut
          simp [Function.update_self] at hu
        · simp only [hwoken u hut] at hu
          cases hplaceu : s.place u with
          | outside | entering r | inside r | waiting g' r =>
              rw [hplaceu] at hu
              exact nomatch hu
  | wake t g p hplace =>
      have hcareful := h.careful t
      rw [hplace] at hcareful
      exact h.move_outside (by simp [hplace]) (by simp) hcareful (by simp)
  | free t a data hplace hfree hstep =>
      refine ⟨h.owner, h.inside, h.careful, fun u g p hu hholds => ?_⟩
      exact h.announced u g p hu (hC.free t s.data a hfree s.data data g hstep hholds)

/-- **When nobody can go on.**  Then the thread inside cannot take its step, or nobody is inside,
and every thread is outside or sleeps with a condition that does not hold. -/
theorem Sound.stuck (h : Sound C s) (hlock : ∀ t, step C s (.lock t) = none)
    (hgo : ∀ t, step C s (.go t) = none) :
    (∃ t e p, s.place t = .inside (.perform e :: p) ∧ C.step s.data e = none) ∨
      ∀ t, s.place t = .outside ∨
        ∃ g p, s.place t = .waiting g p ∧ C.holds g s.data = false := by
  cases howner : s.owner with
  | some t =>
      obtain ⟨p, hp⟩ := h.inside t howner
      have hnone := hgo t
      rw [step, hp] at hnone
      cases p with
      | nil => exact nomatch hnone
      | cons a p =>
          cases a with
          | await g =>
              simp only [State.goOn] at hnone
              split at hnone <;> exact nomatch hnone
          | broadcast => exact nomatch hnone
          | perform e =>
              simp only [State.goOn, Option.map_eq_none_iff] at hnone
              exact Or.inl ⟨t, e, p, hp, hnone⟩
  | none =>
      refine Or.inr fun t => ?_
      cases hplace : s.place t with
      | outside => exact Or.inl rfl
      | entering p =>
          have hnone := hlock t
          rw [step, hplace, howner] at hnone
          exact nomatch hnone
      | inside p => exact absurd (howner.symm.trans (h.owner t p hplace)) (by simp)
      | waiting g p => exact Or.inr ⟨g, p, rfl, h.asleep_of_free howner hplace⟩

end Sound

end Monitor
