/-
# Components of a system that takes steps

A system `step : σ → ε → Option σ` with a part that is a system `part : π → δ → Option π` of its
own.  `view` is the state of the part, and `project` tells which event of the part, if any, an
event of the system is.  This file carries runs and their properties from one to the other:

* `Moves`, `Follows` : an event of the system is the event of the part that it is projected to, or
  leaves the part alone;
* `events` : the events of the part in a run of the system;
* `run_view` : the part runs through them;
* `always_view`, `meets_view` : what holds along one run holds along the other.
-/
import Ct07.Lib.Run

namespace PartialStep

variable {σ ε π δ : Type*} (step : σ → ε → Option σ) (part : π → δ → Option π)
  (view : σ → π) (project : σ → ε → Option δ)

/-- The part goes from one state to the other by an event, or by none. -/
def Moves (p : π) : Option δ → π → Prop
  | none, p' => p' = p
  | some d, p' => part p d = some p'

/-- Each event of the system is for the part what it is projected to. -/
def Follows : Prop :=
  ∀ s e s', step s e = some s' → Moves part (view s) (project s e) (view s')

/-- The events of the part in the run of `es` from `s`. -/
def events : σ → List ε → List δ
  | _, [] => []
  | s, e :: es =>
      match step s e with
      | none => []
      | some s' => (project s e).toList ++ events s' es

variable {step part view project}

theorem events_cons {s s' : σ} {e : ε} (h : step s e = some s') (es : List ε) :
    events step project s (e :: es) = (project s e).toList ++ events step project s' es := by
  rw [events, h]

theorem events_stuck {s : σ} {e : ε} (h : step s e = none) (es : List ε) :
    events step project s (e :: es) = [] := by
  rw [events, h]

/-- The part runs through its events. -/
theorem run_view (hf : Follows step part view project) {s s' : σ} {es : List ε}
    (hrun : run step s es = some s') :
    run part (view s) (events step project s es) = some (view s') := by
  induction es generalizing s with
  | nil =>
      cases Option.some.inj hrun
      rfl
  | cons e es ih =>
      obtain ⟨t, ht, hrest⟩ := run_cons_inv hrun
      have hstep := hf s e t ht
      have hpart := ih hrest
      rw [events_cons ht]
      cases hproject : project s e with
      | none =>
          rw [hproject] at hstep
          rw [Option.toList_none, List.nil_append, ← show view t = view s from hstep]
          exact hpart
      | some d =>
          rw [hproject] at hstep
          rw [Option.toList_some, List.singleton_append,
            run_cons part (show part (view s) d = some (view t) from hstep)]
          exact hpart

/-- A predicate of the part holds along the run of the system exactly when it holds along the run
of the part. -/
theorem always_view (hf : Follows step part view project) {P : π → Prop} (s : σ) (es : List ε) :
    Always step (fun s => P (view s)) s es ↔
      Always part P (view s) (events step project s es) := by
  induction es generalizing s with
  | nil => exact Iff.rfl
  | cons e es ih =>
      cases ht : step s e with
      | none =>
          rw [events_stuck ht]
          constructor
          · exact fun h => h.1
          · refine fun h => ⟨h, fun t ht' => ?_⟩
            rw [ht] at ht'
            cases ht'
      | some t =>
          have hstep := hf s e t ht
          have hsystem : Always step (fun s => P (view s)) s (e :: es) ↔
              P (view s) ∧ Always step (fun s => P (view s)) t es := by
            constructor
            · exact fun h => ⟨h.1, h.2 t ht⟩
            · refine fun h => ⟨h.1, fun t' ht' => ?_⟩
              cases Option.some.inj (ht.symm.trans ht')
              exact h.2
          rw [hsystem, ih t, events_cons ht]
          cases hproject : project s e with
          | none =>
              rw [hproject] at hstep
              rw [Option.toList_none, List.nil_append, show view t = view s from hstep]
              exact ⟨fun h => h.2, fun h => ⟨h.head, h⟩⟩
          | some d =>
              rw [hproject] at hstep
              rw [Option.toList_some, List.singleton_append]
              constructor
              · refine fun h => ⟨h.1, fun p hp => ?_⟩
                cases Option.some.inj (Eq.trans (Eq.symm hstep) hp)
                exact h.2
              · exact fun h => ⟨h.1, h.2 _ hstep⟩

/-- A condition on the events of the part is met along the run of the system exactly when it is met
along the run of the part. -/
theorem meets_view (hf : Follows step part view project) {ok : π → δ → Prop} (s : σ)
    (es : List ε) :
    Meets step (fun s e => ∀ d ∈ project s e, ok (view s) d) s es ↔
      Meets part ok (view s) (events step project s es) := by
  induction es generalizing s with
  | nil => exact Iff.rfl
  | cons e es ih =>
      cases ht : step s e with
      | none =>
          rw [events_stuck ht]
          refine ⟨fun _ => trivial, fun _ t ht' => ?_⟩
          rw [ht] at ht'
          cases ht'
      | some t =>
          have hstep := hf s e t ht
          rw [meets_cons ht, ih t, events_cons ht]
          cases hproject : project s e with
          | none =>
              rw [hproject] at hstep
              rw [Option.toList_none, List.nil_append, show view t = view s from hstep]
              constructor
              · exact fun h => h.2
              · intro h
                constructor
                · rintro d ⟨⟩
                · exact h
          | some d =>
              rw [hproject] at hstep
              rw [Option.toList_some, List.singleton_append,
                meets_cons (show part (view s) d = some (view t) from hstep)]
              constructor
              · exact fun h => ⟨h.1 d rfl, h.2⟩
              · refine fun h => ⟨fun d' hd' => ?_, h.2⟩
                cases Option.some.inj hd'
                exact h.1

end PartialStep
