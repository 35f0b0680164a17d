/-
# Runs of a partial step function

A component that takes one step after another is a function
`step : σ → ε → Option σ`, where `none` says that the event is not possible in
the state.  This file holds the vocabulary in which invariants of such
components are stated and the rules that prove them:

* `run` : the state that a list of events leads to;
* `Always` : a predicate holds in every state the run visits;
* `Meets` : every event the run executes meets a condition in the state before it;
* `always_of_meets` : an inductive invariant under a condition on the steps;
* `always_iff_meets`, `always_iff_meets_within` : the condition is exact, when every step
  that breaks it breaks the predicate, in all runs or in those within a domain.
-/
import Mathlib.Logic.Basic
import Mathlib.Data.Option.Basic

namespace PartialStep

variable {σ ε : Type*} (step : σ → ε → Option σ)

/-! ## Runs -/

/-- The state that `es` leads to from `s`, or `none` once an event is impossible. -/
def run : σ → List ε → Option σ
  | s, [] => some s
  | s, e :: es => (step s e).bind fun s' => run s' es

/-- `P` holds in every state that the run of `es` from `s` visits, `s` included. -/
def Always (P : σ → Prop) : σ → List ε → Prop
  | s, [] => P s
  | s, e :: es => P s ∧ ∀ s', step s e = some s' → Always P s' es

/-- Every event that the run of `es` from `s` executes meets `ok` in the state
in which it is executed. -/
def Meets (ok : σ → ε → Prop) : σ → List ε → Prop
  | _, [] => True
  | s, e :: es => ∀ s', step s e = some s' → ok s e ∧ Meets ok s' es

/-- On a given list of events the condition can be checked by running it. -/
instance Meets.decidable (ok : σ → ε → Prop) [∀ s e, Decidable (ok s e)] :
    ∀ (s : σ) (es : List ε), Decidable (Meets step ok s es)
  | _, [] => isTrue trivial
  | s, e :: es =>
      match h : step s e with
      | none => isTrue fun s' hs' => absurd (h.symm.trans hs') (by simp)
      | some s' =>
          have : Decidable (Meets step ok s' es) := Meets.decidable ok s' es
          decidable_of_iff (ok s e ∧ Meets step ok s' es)
            ⟨fun hm _ ht => Option.some.inj (h.symm.trans ht) ▸ hm, fun hm => hm s' h⟩

@[simp] theorem run_nil (s : σ) : run step s [] = some s := rfl

theorem run_cons {s s' : σ} {e : ε} (h : step s e = some s') (es : List ε) :
    run step s (e :: es) = run step s' es := by
  simp [run, h]

theorem run_append (s : σ) (es es' : List ε) :
    run step s (es ++ es') = (run step s es).bind fun s' => run step s' es' := by
  induction es generalizing s with
  | nil => rfl
  | cons e es ih =>
      simp only [List.cons_append, run, Option.bind_assoc]
      congr 1
      funext s'
      exact ih s'

variable {step}

/-- A run that went through `e :: es` went through `e` first. -/
theorem run_cons_inv {s s'' : σ} {e : ε} {es : List ε}
    (h : run step s (e :: es) = some s'') :
    ∃ s', step s e = some s' ∧ run step s' es = some s'' := by
  simpa [run, Option.bind_eq_some_iff] using h

/-! ## The two modalities -/

theorem Always.head {P : σ → Prop} {s : σ} {es : List ε} (h : Always step P s es) : P s := by
  cases es with
  | nil => exact h
  | cons e es => exact h.1

/-- The last state of a run is one of the states it visits. -/
theorem Always.last {P : σ → Prop} {s s' : σ} {es : List ε} (h : Always step P s es)
    (hrun : run step s es = some s') : P s' := by
  induction es generalizing s with
  | nil =>
      cases Option.some.inj hrun
      exact h
  | cons e es ih =>
      obtain ⟨t, ht, hrest⟩ := run_cons_inv hrun
      exact ih (h.2 t ht) hrest

theorem meets_cons {ok : σ → ε → Prop} {s s' : σ} {e : ε} (h : step s e = some s')
    (es : List ε) : Meets step ok s (e :: es) ↔ ok s e ∧ Meets step ok s' es := by
  constructor
  · intro hm
    exact hm s' h
  · intro hm t ht
    rw [h] at ht
    cases Option.some.inj ht
    exact hm

theorem meets_append {ok : σ → ε → Prop} (s : σ) (es es' : List ε) :
    Meets step ok s (es ++ es') ↔
      Meets step ok s es ∧ ∀ s', run step s es = some s' → Meets step ok s' es' := by
  induction es generalizing s with
  | nil => simp [Meets]
  | cons e es ih =>
      cases h : step s e with
      | none => simp [Meets, run, h]
      | some t => simp [Meets, run, h, ih, and_assoc]

theorem Always.mono {P Q : σ → Prop} (himp : ∀ s, P s → Q s) {s : σ} {es : List ε}
    (h : Always step P s es) : Always step Q s es := by
  induction es generalizing s with
  | nil => exact himp s h
  | cons e es ih => exact ⟨himp s h.1, fun t ht => ih (h.2 t ht)⟩

/-- A condition that no event can break is met by every run. -/
theorem meets_of_forall {ok : σ → ε → Prop} (h : ∀ s e, ok s e) (s : σ) (es : List ε) :
    Meets step ok s es := by
  induction es generalizing s with
  | nil => trivial
  | cons e es ih => exact fun t _ => ⟨h s e, ih t⟩

/-- A condition on the events alone is met by the runs of the events that satisfy it. -/
theorem meets_of_forall_mem {ok : ε → Prop} {es : List ε} (h : ∀ e ∈ es, ok e) (s : σ) :
    Meets step (fun _ e => ok e) s es := by
  induction es generalizing s with
  | nil => trivial
  | cons e es ih =>
      intro t _
      exact ⟨h e List.mem_cons_self, ih (fun e' he' => h e' (List.mem_cons_of_mem e he')) t⟩

/-! ## Invariant rules -/

section Invariant

variable {Inv P : σ → Prop} {ok : σ → ε → Prop}

/-- **The invariant rule.**  What every allowed step preserves holds along every
run whose steps are all allowed. -/
theorem always_of_meets (hstep : ∀ s e s', Inv s → ok s e → step s e = some s' → Inv s')
    {s : σ} {es : List ε} (hs : Inv s) (hm : Meets step ok s es) : Always step Inv s es := by
  induction es generalizing s with
  | nil => exact hs
  | cons e es ih =>
      refine ⟨hs, fun t ht => ?_⟩
      obtain ⟨hok, hrest⟩ := hm t ht
      exact ih (hstep s e t hs hok ht) hrest

/-- An invariant that every step preserves holds along every run. -/
theorem always_of_step (hstep : ∀ s e s', Inv s → step s e = some s' → Inv s')
    {s : σ} (hs : Inv s) (es : List ε) : Always step Inv s es :=
  have hmeets : Meets step (fun _ _ => True) s es := meets_of_forall (fun _ _ => trivial) s es
  always_of_meets (fun s e s' hi _ h => hstep s e s' hi h) hs hmeets

/-- **The exact-condition rule, within a domain.**  Let all steps of the run be in the domain
`dom`.  Let `Inv` be preserved by the allowed steps of the domain and imply `P`, and let every
step of the domain that is not allowed lead out of `P`.  Then `P` holds along the run exactly
when all of its steps are allowed. -/
theorem always_iff_meets_within {dom : σ → ε → Prop} (himp : ∀ s, Inv s → P s)
    (hstep : ∀ s e s', Inv s → dom s e → ok s e → step s e = some s' → Inv s')
    (hbad : ∀ s e s', Inv s → dom s e → ¬ ok s e → step s e = some s' → ¬ P s')
    {s : σ} (hs : Inv s) {es : List ε} (hdom : Meets step dom s es) :
    Always step P s es ↔ Meets step ok s es := by
  induction es generalizing s with
  | nil => exact ⟨fun _ => trivial, fun _ => himp s hs⟩
  | cons e es ih =>
      constructor
      · rintro ⟨-, hrest⟩ t ht
        obtain ⟨hd, hds⟩ := hdom t ht
        have hok : ok s e := by
          by_contra hno
          exact hbad s e t hs hd hno ht (hrest t ht).head
        exact ⟨hok, (ih (hstep s e t hs hd hok ht) hds).1 (hrest t ht)⟩
      · refine fun hm => ⟨himp s hs, fun t ht => ?_⟩
        obtain ⟨hd, hds⟩ := hdom t ht
        obtain ⟨hok, hms⟩ := hm t ht
        exact (ih (hstep s e t hs hd hok ht) hds).2 hms

/-- **The exact-condition rule.**  Let `Inv` be preserved by the allowed steps and
imply `P`, and let every step that is not allowed lead out of `P`.  Then `P` holds
along a run exactly when all of its steps are allowed. -/
theorem always_iff_meets (himp : ∀ s, Inv s → P s)
    (hstep : ∀ s e s', Inv s → ok s e → step s e = some s' → Inv s')
    (hbad : ∀ s e s', Inv s → ¬ ok s e → step s e = some s' → ¬ P s')
    {s : σ} (hs : Inv s) (es : List ε) : Always step P s es ↔ Meets step ok s es :=
  have hdom : Meets step (fun _ _ => True) s es := meets_of_forall (fun _ _ => trivial) s es
  always_iff_meets_within himp (fun s e s' hi _ => hstep s e s' hi)
    (fun s e s' hi _ => hbad s e s' hi) hs hdom

end Invariant

end PartialStep
