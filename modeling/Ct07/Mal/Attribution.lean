/-
# Whose result a MAL answer carries

The error code and the text of an answer come out of the slot, where `malComplete` puts
both at once.  They belong to the request that is answered as long as no result reaches
the slot after the request it was claimed for has given the slot up.  The text of a failed
attempt stays in the slot when `malDispatch` tries again, and a result can arrive between
the end of the last wait and the answer: either text is then answered along with the
failure of a wait that ended without a completion.

Main result: `answersAttributed`.
-/
import Ct07.Mal.Dispatch

open PartialStep Ril

namespace Mal.Dispatch

/-! ## The property -/

/-- The result with error code `err` and text `text`, taken from the given completions, is
the one a completion claimed for request `request`. -/
def FromCompletion (completions : List Completion) (request : ℕ) (err : UInt32)
    (text : List UInt8) (errFrom textFrom : Option ℕ) : Prop :=
  ∃ c ∈ completions, c.request = request ∧ errFrom = some c.id ∧ textFrom = some c.id ∧
    err = c.err ∧ text = c.text

/-- What an answer has to be: the generic failure without text when the last wait ended
without a completion, and otherwise the result of one completion of the request. -/
def ResultAttributed (completions : List Completion) (request : ℕ) (timedOut : Bool)
    (err : UInt32) (text : List UInt8) (errFrom textFrom : Option ℕ) : Prop :=
  if timedOut then err = rilEGenericFailure ∧ text = []
  else FromCompletion completions request err text errFrom textFrom

/-- The answers that do not come from the vendor have no text; the others are attributed. -/
def Answer.Attributed (completions : List Completion) (a : Answer) : Prop :=
  match a.source with
  | .local => a.text = []
  | .vendor request timedOut errFrom textFrom =>
      ResultAttributed completions request timedOut a.err a.text errFrom textFrom

/-- All answers sent so far are attributed. -/
def State.AnswersAttributed (s : State) : Prop :=
  ∀ a ∈ s.answers, a.Attributed s.completions

/-- The last wait of the running request has expired, and the result is not collected
yet. -/
def State.waitExpired (s : State) : Bool :=
  match s.pc with
  | .running d => d.stage == .collect && d.timedOut
  | _ => false

/-- A result delivered to a slot in use was claimed for the request that has the slot now,
and brings no text once the wait of that request has expired; and no wait expires while
the text of an earlier attempt is in the slot. -/
def Event.KeepsResults (s : State) : Event → Prop
  | .deliver k => ∀ c ∈ s.claimed[k]?, (s.slots c.slot).inUse = true →
      (s.slots c.slot).request = c.request ∧ (s.waitExpired = true → c.text = [])
  | .advance _ =>
      match s.pc with
      -- the wait is left while `done` is not set: it has expired
      | .running d => d.stage = .wait → (s.slots d.slot).done = false →
          (s.slots d.slot).text = []
      | _ => True
  | _ => True

instance (s : State) (e : Event) : Decidable (e.KeepsResults s) :=
  match e with
  | .accept _ | .disconnect | .frame _ _ _ | .complete _ _ _ _ => isTrue trivial
  | .advance _ =>
      match hpc : s.pc with
      | .idle | .aborted => isTrue (by simp only [Event.KeepsResults, hpc])
      | .running d =>
          decidable_of_iff
            (d.stage = .wait → (s.slots d.slot).done = false → (s.slots d.slot).text = [])
            (by simp only [Event.KeepsResults, hpc])
  | .deliver k =>
      inferInstanceAs (Decidable (∀ c ∈ s.claimed[k]?, (s.slots c.slot).inUse = true →
        (s.slots c.slot).request = c.request ∧ (s.waitExpired = true → c.text = [])))

/-! ## The invariant -/

/-- What the slot of a running `malDispatch` holds before the result is collected: nothing
yet, or the result of one completion of the request; and something, once it is done. -/
structure Slot.Holds (completions : List Completion) (slot : Slot) (d : Running) : Prop where
  result : slot.errFrom ≠ none →
    FromCompletion completions d.request slot.err slot.text slot.errFrom slot.textFrom
  done : slot.done = true → slot.errFrom ≠ none

/-- The stages before the result is collected. -/
def Stage.BeforeSend : Stage → Prop
  | .send | .release => False
  | _ => True

/-- What holds of a running `malDispatch`. -/
structure Running.Attributing (s : State) (d : Running) : Prop where
  in_use : (s.slots d.slot).inUse = true
  request : (s.slots d.slot).request = d.request
  holds : d.stage.BeforeSend → (s.slots d.slot).Holds s.completions d
  collect : d.stage = .collect → d.timedOut = false → (s.slots d.slot).errFrom ≠ none
  expired : d.stage = .collect → d.timedOut = true → (s.slots d.slot).text = []
  send : d.stage = .send → ResultAttributed s.completions d.request d.timedOut d.finalErr
    d.text d.errFrom d.textFrom

/-- What holds as long as results are kept apart. -/
structure State.Attributing (s : State) : Prop where
  answers : s.AnswersAttributed
  claimed : ∀ c ∈ s.claimed, c ∈ s.completions
  running : ∀ d, s.pc = .running d → d.Attributing s

theorem attributing_init : State.init.Attributing :=
  ⟨fun a ha => by simp [State.init] at ha, fun c hc => by simp [State.init] at hc,
    fun d hd => by simp [State.init] at hd⟩

section Mono

variable {completions : List Completion} {request : ℕ} {timedOut : Bool} {err : UInt32}
variable {text : List UInt8} {errFrom textFrom : Option ℕ} (c : Completion)

theorem FromCompletion.cons (h : FromCompletion completions request err text errFrom textFrom) :
    FromCompletion (c :: completions) request err text errFrom textFrom := by
  obtain ⟨c', hmem, hc'⟩ := h
  exact ⟨c', List.mem_cons_of_mem c hmem, hc'⟩

theorem ResultAttributed.cons
    (h : ResultAttributed completions request timedOut err text errFrom textFrom) :
    ResultAttributed (c :: completions) request timedOut err text errFrom textFrom := by
  cases timedOut with
  | true => exact h
  | false => exact FromCompletion.cons c h

theorem Answer.Attributed.cons {a : Answer} (h : a.Attributed completions) :
    a.Attributed (c :: completions) := by
  unfold Answer.Attributed at h ⊢
  split
  · rename_i hsource
    simpa [hsource] using h
  · rename_i hsource
    simp only [hsource] at h
    exact h.cons c

theorem Slot.Holds.cons {slot : Slot} {d : Running} (h : slot.Holds completions d) :
    slot.Holds (c :: completions) d :=
  ⟨fun hfrom => (h.result hfrom).cons c, h.done⟩

end Mono

/-! ## One step -/

/-- The server thread goes on with the same answers. -/
theorem State.Attributing.goto {s s₁ : State} {d : Running} (h : s.Attributing)
    (hanswers : s₁.answers = s.answers) (hclaimed : s₁.claimed = s.claimed)
    (hcompletions : s₁.completions = s.completions) (hd : d.Attributing s₁) :
    (s₁.goto d).Attributing := by
  refine ⟨?_, ?_, fun d' hd' => ?_⟩
  · change ∀ a ∈ s₁.answers, a.Attributed s₁.completions
    rw [hanswers, hcompletions]
    exact h.answers
  · change ∀ c ∈ s₁.claimed, c ∈ s₁.completions
    rw [hclaimed, hcompletions]
    exact h.claimed
  · cases hd'
    exact ⟨hd.in_use, hd.request, hd.holds, hd.collect, hd.expired, hd.send⟩

/-- A step of a running `malDispatch` in which no wait expires with a text in the slot. -/
theorem advance_attributing {s s' : State} {d : Running} {expired : Bool} (h : s.Attributing)
    (hpc : s.pc = .running d)
    (hok : d.stage = .wait → (s.slots d.slot).done = false → (s.slots d.slot).text = [])
    (hs : Advanced s d expired s') : s'.Attributing := by
  obtain ⟨huse, hrequest, hholds, hcollect, hexpired, hsend⟩ := h.running d hpc
  cases hs with
  | reset hstage =>
      obtain ⟨hresult, -⟩ := hholds (by rw [hstage]; trivial)
      refine h.goto rfl rfl rfl ⟨?_, ?_, fun _ => ⟨?_, ?_⟩, by simp, by simp, by simp⟩
      · simpa using huse
      · simpa using hrequest
      · simpa using hresult
      · simp
  | call hstage =>
      have hold := hholds (by rw [hstage]; trivial)
      exact h.goto rfl rfl rfl ⟨huse, hrequest, fun _ => ⟨hold.result, hold.done⟩, by simp,
        by simp, by simp⟩
  | inVendor hstage =>
      have hold := hholds (by rw [hstage]; trivial)
      exact h.goto rfl rfl rfl ⟨huse, hrequest, fun _ => ⟨hold.result, hold.done⟩, by simp,
        by simp, by simp⟩
  | ended hstage _ =>
      have hold := hholds (by rw [hstage]; trivial)
      refine h.goto rfl rfl rfl ⟨huse, hrequest, fun _ => ⟨hold.result, hold.done⟩,
        fun _ hin => hold.done ?_, fun _ htimed => hok hstage ?_, by simp⟩
      · simpa using hin
      · simpa using htimed
  | retried hstage _ =>
      have hold := hholds (by rw [hstage]; trivial)
      exact h.goto rfl rfl rfl ⟨huse, hrequest, fun _ => ⟨hold.result, hold.done⟩, by simp,
        by simp, by simp⟩
  | slept hstage =>
      have hold := hholds (by rw [hstage]; trivial)
      exact h.goto rfl rfl rfl ⟨huse, hrequest, fun _ => ⟨hold.result, hold.done⟩, by simp,
        by simp, by simp⟩
  | collected hstage =>
      have hold := hholds (by rw [hstage]; trivial)
      refine h.goto rfl rfl rfl ⟨by simpa using huse, by simpa using hrequest,
        fun hbefore => hbefore.elim, by simp, by simp, fun _ => ?_⟩
      unfold ResultAttributed
      by_cases htimed : d.timedOut = true
      · rw [if_pos htimed]
        exact ⟨if_pos htimed, hexpired hstage htimed⟩
      · rw [if_neg htimed]
        simp only [if_neg htimed]
        exact hold.result (hcollect hstage (by simpa using htimed))
  | sent hstage =>
      refine ⟨fun a ha => ?_, h.claimed, fun d' hd' => ?_⟩
      · rcases List.mem_cons.1 ha with rfl | ha
        · exact hsend hstage
        · exact h.answers a ha
      · cases hd'
        exact ⟨huse, hrequest, fun hbefore => hbefore.elim, by simp, by simp, by simp⟩
  | released hstage tokens =>
      exact ⟨h.answers, h.claimed, fun d' hd' => by simp at hd'⟩

/-- A frame starts a request with an empty slot, or is answered without text. -/
theorem malDispatch_attributing {s : State} {simCount : ℕ} {r : MalRequest}
    {cmdAllocated : Bool} {pRI : Option ℕ} (h : s.Attributing) (hpc : s.pc = .idle) {s' : State}
    (hs' : s.malDispatch simCount r cmdAllocated pRI = s') : s'.Attributing := by
  have hdispatched := malDispatch_dispatched simCount s r cmdAllocated pRI
  rw [hs'] at hdispatched
  cases hdispatched with
  | answered slots err _ _ =>
      refine ⟨fun a ha => ?_, h.claimed, fun d hd => ?_⟩
      · rcases List.mem_cons.1 ha with rfl | ha
        · rfl
        · exact h.answers a ha
      · exact absurd (hpc.symm.trans hd) (by simp)
  | refused _ =>
      refine ⟨fun a ha => ?_, h.claimed, fun d hd => ?_⟩
      · rcases List.mem_cons.1 ha with rfl | ha
        · rfl
        · exact h.answers a ha
      · exact absurd (hpc.symm.trans hd) (by simp)
  | aborted _ _ _ _ => exact ⟨h.answers, h.claimed, fun d hd => by simp at hd⟩
  | started i cmd t routing _ _ =>
      refine ⟨h.answers, h.claimed, fun d hd => ?_⟩
      cases hd
      refine ⟨?_, ?_, fun _ => ⟨fun hfrom => ?_, fun hdone => ?_⟩, by simp [Running.start],
        by simp [Running.start], by simp [Running.start]⟩
      · simp [Running.start, Slot.start, State.setSlot]
      · simp [Running.start, Slot.start, State.setSlot]
      · simp [Running.start, Slot.start, State.setSlot] at hfrom
      · simp [Running.start, Slot.start, State.setSlot] at hdone

/-- A claimed result is one completion more. -/
theorem complete_attributing {s : State} (h : s.Attributing) (t : ℕ) (err : UInt32)
    (response : Option (List UInt8)) (allocated : Bool) :
    (s.complete t err response allocated).Attributing := by
  unfold State.complete
  split
  · exact h
  · refine ⟨fun a ha => (h.answers a ha).cons _, fun c hc => ?_, fun d hd => ?_⟩
    · rcases List.mem_append.1 hc with hc | hc
      · exact List.mem_cons_of_mem _ (h.claimed c hc)
      · rw [List.mem_singleton.1 hc]
        exact List.mem_cons_self
    · obtain ⟨huse, hrequest, hholds, hcollect, hexpired, hsend⟩ := h.running d hd
      exact ⟨huse, hrequest, fun hbefore => (hholds hbefore).cons _, hcollect, hexpired,
        fun hstage => (hsend hstage).cons _⟩

/-- A result delivered to the request it was claimed for, before its wait has expired or
without a text, or to a slot that is free. -/
theorem malComplete_attributing {s : State} {k : ℕ} {c : Completion} (h : s.Attributing)
    (hc : s.claimed[k]? = some c)
    (hown : (s.slots c.slot).inUse = true →
      (s.slots c.slot).request = c.request ∧ (s.waitExpired = true → c.text = [])) :
    ({ s with claimed := s.claimed.eraseIdx k }.malComplete c).Attributing := by
  refine ⟨h.answers, fun c' hc' => h.claimed c' (List.mem_of_mem_eraseIdx hc'), fun d hd => ?_⟩
  have hpc : s.pc = .running d := hd
  obtain ⟨huse, hrequest, hholds, hcollect, hexpired, hsend⟩ := h.running d hpc
  by_cases hslot : d.slot = c.slot
  · -- the slot of the running request now holds `c`, which was claimed for it
    obtain ⟨hsame, hlate⟩ := hown (hslot ▸ huse)
    have hfor : c.request = d.request := by
      rw [← hrequest, hslot]
      exact hsame.symm
    have hmem : c ∈ s.completions := h.claimed c (List.mem_of_getElem? hc)
    have hnotext : d.stage = .collect → d.timedOut = true → c.text = [] := by
      intro hstage htimed
      exact hlate (by simp [State.waitExpired, hpc, hstage, htimed])
    rw [hslot] at huse hrequest
    have hnow : (({ s with claimed := s.claimed.eraseIdx k }.malComplete c).slots d.slot).text
        = c.text := by
      simp [State.malComplete, hslot]
    refine ⟨?_, ?_, fun _ => ⟨fun _ => ⟨c, hmem, hfor, ?_⟩, fun _ => ?_⟩, fun _ _ => ?_,
      fun hstage htimed => hnow.trans (hnotext hstage htimed), hsend⟩ <;>
      simp [State.malComplete, hslot, huse, hrequest]
  · have hsame : ({ s with claimed := s.claimed.eraseIdx k }.malComplete c).slots d.slot
        = s.slots d.slot := setSlot_slots_of_ne _ hslot _
    exact ⟨hsame ▸ huse, hsame ▸ hrequest, fun hbefore => hsame ▸ hholds hbefore,
      fun hstage htimed => hsame ▸ hcollect hstage htimed,
      fun hstage htimed => hsame ▸ hexpired hstage htimed, hsend⟩

/-- **One step.**  A step that keeps the results apart keeps the attribution. -/
theorem step_attributing {simCount : ℕ} {s s' : State} {e : Event} (h : s.Attributing)
    (hok : e.KeepsResults s) (hs : step simCount s e = some s') : s'.Attributing := by
  cases step_transition hs with
  | accept fd hpc =>
      exact ⟨h.answers, h.claimed, fun d hd => absurd (hpc.symm.trans hd) (by simp)⟩
  | disconnect hpc =>
      exact ⟨h.answers, h.claimed, fun d hd => absurd (hpc.symm.trans hd) (by simp)⟩
  | frame fd r cmdAllocated pRI hpc _ =>
      have hbefore : { s with frames := (fd, r) :: s.frames, vendorCalls := 0 }.Attributing :=
        ⟨h.answers, h.claimed, fun d hd => absurd (hpc.symm.trans hd) (by simp)⟩
      exact malDispatch_attributing hbefore hpc rfl
  | advance d expired _ hpc hadvanced =>
      simp only [Event.KeepsResults, hpc] at hok
      exact advance_attributing h hpc hok hadvanced
  | complete t err response allocated _ => exact complete_attributing h t err response allocated
  | deliver k c _ hc => exact malComplete_attributing h hc (hok c hc)

/-! ## Main result -/

/-- **Whose result an answer carries.**  For any number of SIMs and every run, with claims
and deliveries at any time: as long as no result is delivered to a slot that another request
has, or with a text after the last wait, and no wait expires over the text of an earlier
attempt, every answer carries the error code and the text of one completion claimed for the
request that is answered, or the generic failure without text. -/
theorem answersAttributed (simCount : ℕ) (es : List Event)
    (h : Meets (step simCount) (fun s e => e.KeepsResults s) State.init es) :
    Always (step simCount) State.AnswersAttributed State.init es :=
  (always_of_meets (fun _ _ _ hs he hstep => step_attributing hs he hstep) attributing_init h).mono
    fun _ hs => hs.answers

/-- The steps of the server thread, `n` times. -/
def advances (n : ℕ) : List Event := List.replicate n (.advance false)

/-- An `AT` command that is answered after one retry. -/
theorem answersAttributed_retry :
    Always (step 2) State.AnswersAttributed State.init
      ([.accept 5, .frame ⟨0, 2106, 7, [0, 0, 0, 0, 2, 0, 0, 0, 65, 84]⟩ true (some 1)] ++
        advances 3 ++ [.complete 1 1 (some [66, 0]) true, .deliver 0] ++ advances 5 ++
        [.complete 1 0 (some [79, 75, 0]) true, .deliver 0] ++ advances 4) :=
  answersAttributed 2 _ (by decide)

/-- The first attempt fails with a text, the second is never completed: the text is answered
along with the generic failure. -/
theorem staleText_not_attributed :
    ¬ ∀ (simCount : ℕ) (es : List Event),
      Always (step simCount) State.AnswersAttributed State.init es := by
  intro hall
  have hrun : (run (step 2) State.init
      ([.accept 5, .frame ⟨0, 2106, 7, [0, 0, 0, 0, 2, 0, 0, 0, 65, 84]⟩ true (some 1)] ++
        advances 3 ++ [.complete 1 1 (some [66, 0]) true, .deliver 0] ++ advances 5 ++
        [.advance true] ++ advances 2)).map State.answers
      = some [⟨some 5, 0, 7, 2, [66], .vendor 1 true (some 0) (some 0)⟩] := by decide
  obtain ⟨s', hs', hanswers⟩ := Option.map_eq_some_iff.1 hrun
  have hattributed := (hall 2 _).last hs'
  rw [State.AnswersAttributed, hanswers] at hattributed
  have htext := (hattributed _ List.mem_cons_self).2
  exact absurd htext (by decide)

end Mal.Dispatch
