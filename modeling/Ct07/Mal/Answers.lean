/-
# One answer for each MAL request

Whatever the vendor does with the tokens, a running `malDispatch` goes through a bounded
number of attempts, sends one answer on the connection that asked, and frees its slot.
So all slots are free whenever a frame is dispatched, and no frame is refused.

The exception is a frame whose SIM id makes the channel arithmetic overflow: the trap
stops the process, and the frame is not answered.

Main result: `answersOnce_iff`.
-/
import Ct07.Mal.Dispatch

open PartialStep Ril

namespace Mal.Dispatch

/-! ## The property -/

/-- Connection, SIM id and serial of an answer. -/
def Answer.address (a : Answer) : Option ℕ × UInt32 × UInt32 := (a.fd, a.simId, a.serial)

/-- Connection, SIM id and serial of a frame dispatched. -/
def frameAddress (f : ℕ × MalRequest) : Option ℕ × UInt32 × UInt32 :=
  (some f.1, f.2.simId, f.2.serial)

/-- The frames that have to be answered by now: all, unless `malDispatch` is still busy
with the latest one. -/
def State.dueFrames (s : State) : List (ℕ × MalRequest) :=
  match s.pc with
  | .running d => if d.stage = .release then s.frames else s.frames.tail
  | _ => s.frames

/-- How many steps `malDispatch` has left in the current attempt. -/
def Stage.left : Stage → ℕ
  | .reset => 8
  | .call => 7
  | .inVendor => 6
  | .wait => 5
  | .sleep => 4
  | .collect => 3
  | .send => 2
  | .release => 1

/-- A bound on the steps `malDispatch` has left before it returns. -/
def State.stepsLeft (s : State) : ℕ :=
  match s.pc with
  | .running d => 8 * (malMaxAttempts - d.attempt) + d.stage.left
  | _ => 0

/-- Every frame is answered once, on the connection that asked and with its SIM id and
serial, after a bounded number of vendor calls; between frames all slots are free, and no
frame is refused; and `malDispatch` can go on until it returns. -/
structure State.AnswersOnce (simCount : ℕ) (s : State) : Prop where
  answered : s.answers.map Answer.address = s.dueFrames.map frameAddress
  attempts : s.vendorCalls ≤ malMaxAttempts
  slots_free : s.pc = .idle → ∀ i, (s.slots i).inUse = false
  not_refused : s.refused = false
  returns : ∃ es, (∀ e ∈ es, ∃ expired, e = .advance expired) ∧
    ∃ s', run (step simCount) s es = some s' ∧ s'.pc = .idle

/-- Each step of a running `malDispatch` brings its return closer, and no step of the vendor
puts it off. -/
def State.StepsBounded (simCount : ℕ) (s : State) : Prop :=
  ∀ d, s.pc = .running d → ∀ e s', step simCount s e = some s' →
    s'.stepsLeft ≤ s.stepsLeft ∧ ((∃ expired, e = .advance expired) → s'.stepsLeft < s.stepsLeft)

/-- A frame that gets as far as the channel arithmetic has a SIM id that does not make it
overflow. -/
def Event.Routable : Event → Prop
  | .frame r cmdAllocated pRI =>
      (commandOf r).isSome → cmdAllocated → pRI.isSome → NoOverflow r.simId
  | _ => True

instance : DecidablePred Event.Routable := fun e => by
  cases e <;> simp only [Event.Routable] <;> infer_instance

/-! ## The invariant -/

/-- What holds of a running `malDispatch`: it has the only slot in use, it is working on
the latest frame, and it has called the vendor once for each attempt. -/
structure Running.Orderly (s : State) (d : Running) : Prop where
  own_slot : ∀ i, i ≠ d.slot → (s.slots i).inUse = false
  attempt_pos : 1 ≤ d.attempt
  attempt_le : d.attempt ≤ malMaxAttempts
  retries : d.stage = .sleep → d.attempt < malMaxAttempts
  calls : s.vendorCalls =
    if d.stage = .reset ∨ d.stage = .call then d.attempt - 1 else d.attempt
  frame : ∃ fd rest, s.clientFd = some fd ∧ s.frames = (fd, d.frame) :: rest ∧
    s.answers.map Answer.address =
      if d.stage = .release then s.frames.map frameAddress else rest.map frameAddress

/-- What holds as long as no overflow has stopped the process. -/
def State.Orderly (s : State) : Prop :=
  s.refused = false ∧ s.vendorCalls ≤ malMaxAttempts ∧
    match s.pc with
    | .idle => (∀ i, (s.slots i).inUse = false) ∧
        s.answers.map Answer.address = s.frames.map frameAddress
    | .running d => d.Orderly s
    | .aborted => False

theorem orderly_init : State.init.Orderly :=
  ⟨rfl, Nat.zero_le _, fun _ => rfl, rfl⟩

theorem State.Orderly.idle {s : State} (h : s.Orderly) (hpc : s.pc = .idle) :
    (∀ i, (s.slots i).inUse = false) ∧
      s.answers.map Answer.address = s.frames.map frameAddress := by
  have := h.2.2
  rwa [hpc] at this

theorem State.Orderly.running {s : State} (h : s.Orderly) {d : Running}
    (hpc : s.pc = .running d) : d.Orderly s := by
  have := h.2.2
  rwa [hpc] at this

theorem State.Orderly.not_aborted {s : State} (h : s.Orderly) : s.pc ≠ .aborted := by
  intro hpc
  have := h.2.2
  rwa [hpc] at this

/-! ## The server's steps -/

/-- A running `malDispatch` whose stage has the given successor. -/
theorem Running.Orderly.goto {s s₁ : State} {d d' : Running} (h : d.Orderly s)
    (hslots : ∀ i, i ≠ d.slot → s₁.slots i = s.slots i) (hslot : d'.slot = d.slot)
    (hframe : d'.frame = d.frame) (hpos : 1 ≤ d'.attempt) (hle : d'.attempt ≤ malMaxAttempts)
    (hretry : d'.stage = .sleep → d'.attempt < malMaxAttempts)
    (hcalls : s₁.vendorCalls =
      if d'.stage = .reset ∨ d'.stage = .call then d'.attempt - 1 else d'.attempt)
    (hfd : s₁.clientFd = s.clientFd) (hframes : s₁.frames = s.frames)
    (hanswers : ∀ fd rest, s.clientFd = some fd → s.frames = (fd, d.frame) :: rest →
      s₁.answers.map Answer.address =
        if d'.stage = .release then s.frames.map frameAddress else rest.map frameAddress) :
    d'.Orderly (s₁.goto d') := by
  obtain ⟨fd, rest, hfd', hframes', -⟩ := h.frame
  refine ⟨fun i hi => ?_, hpos, hle, hretry, hcalls, fd, rest, ?_, ?_, ?_⟩
  · rw [hslot] at hi
    change (s₁.slots i).inUse = false
    rw [hslots i hi]
    exact h.own_slot i hi
  · exact hfd.trans hfd'
  · rw [hframe]
    exact hframes.trans hframes'
  · change s₁.answers.map Answer.address = _
    rw [hanswers fd rest hfd' hframes']
    change _ = if d'.stage = .release then s₁.frames.map frameAddress else _
    rw [hframes]

/-- Every step of a running `malDispatch` brings its return closer. -/
theorem advance_stepsLeft_lt {s s' : State} {d : Running} {expired : Bool}
    (hpc : s.pc = .running d) (hretry : d.stage = .sleep → d.attempt < malMaxAttempts)
    (hs : Advanced s d expired s') : s'.stepsLeft < s.stepsLeft := by
  have hleft : s.stepsLeft = 8 * (malMaxAttempts - d.attempt) + d.stage.left := by
    rw [State.stepsLeft, hpc]
  rw [hleft]
  cases hs with
  | ended hstage _ =>
      rw [hstage]
      change 8 * (malMaxAttempts - d.attempt) + 3 < 8 * (malMaxAttempts - d.attempt) + 5
      omega
  | slept hstage =>
      -- the one step that starts another attempt
      have hlt := hretry hstage
      rw [hstage]
      change 8 * (malMaxAttempts - (d.attempt + 1)) + 8 < 8 * (malMaxAttempts - d.attempt) + 4
      omega
  | released hstage _ =>
      rw [hstage]
      exact Nat.succ_pos _
  | reset hstage =>
      rw [hstage]
      exact Nat.lt_succ_self _
  | call hstage =>
      rw [hstage]
      exact Nat.lt_succ_self _
  | inVendor hstage =>
      rw [hstage]
      exact Nat.lt_succ_self _
  | retried hstage _ =>
      rw [hstage]
      exact Nat.lt_succ_self _
  | collected hstage =>
      rw [hstage]
      exact Nat.lt_succ_self _
  | sent hstage =>
      rw [hstage]
      exact Nat.lt_succ_self _

/-- The answers sent before the next one, when the stage is known. -/
theorem Running.Orderly.answers_eq {s : State} {d : Running} (h : d.Orderly s) {fd : ℕ}
    {rest : List (ℕ × MalRequest)} (hframes : s.frames = (fd, d.frame) :: rest) :
    s.answers.map Answer.address =
      if d.stage = .release then s.frames.map frameAddress else rest.map frameAddress := by
  obtain ⟨fd', rest', -, hframes', hanswers⟩ := h.frame
  rw [hframes] at hframes'
  cases hframes'
  exact hanswers

/-- A running `malDispatch` stays in order. -/
theorem advance_orderly {s s' : State} {d : Running} {expired : Bool} (h : s.Orderly)
    (hpc : s.pc = .running d) (hs : Advanced s d expired s') : s'.Orderly := by
  have hd := h.running hpc
  obtain ⟨hrefused, hvendor, -⟩ := h
  have hpos := hd.attempt_pos
  have hle := hd.attempt_le
  have hcalls := hd.calls
  have hsame : ∀ fd rest, s.clientFd = some fd → s.frames = (fd, d.frame) :: rest →
      s.answers.map Answer.address =
        if d.stage = .release then s.frames.map frameAddress else rest.map frameAddress :=
    fun _ _ _ hframes => hd.answers_eq hframes
  cases hs with
  | reset hstage =>
      simp only [hstage, if_true, true_or] at hcalls hsame
      exact ⟨hrefused, hvendor, hd.goto (fun i hi => setSlot_slots_of_ne s hi _) rfl rfl
        hpos hle (by simp) (by simpa using hcalls) rfl rfl (by simpa using hsame)⟩
  | call hstage =>
      simp only [hstage, if_true, or_true] at hcalls hsame
      refine ⟨hrefused, ?_, hd.goto (fun _ _ => rfl) rfl rfl hpos hle (by simp) ?_ rfl rfl
        (by simpa using hsame)⟩
      · change s.vendorCalls + 1 ≤ _
        omega
      · simp only [reduceCtorEq, or_self, if_false]
        omega
  | inVendor hstage =>
      simp only [hstage, reduceCtorEq, or_self, if_false] at hcalls hsame
      exact ⟨hrefused, hvendor, hd.goto (fun _ _ => rfl) rfl rfl hpos hle (by simp)
        (by simpa using hcalls) rfl rfl (by simpa using hsame)⟩
  | ended hstage _ =>
      simp only [hstage, reduceCtorEq, or_self, if_false] at hcalls hsame
      exact ⟨hrefused, hvendor, hd.goto (fun _ _ => rfl) rfl rfl hpos hle (by simp)
        (by simpa using hcalls) rfl rfl (by simpa using hsame)⟩
  | retried hstage hattempt =>
      simp only [hstage, reduceCtorEq, or_self, if_false] at hcalls hsame
      exact ⟨hrefused, hvendor, hd.goto (fun _ _ => rfl) rfl rfl hpos hle (fun _ => hattempt)
        (by simpa using hcalls) rfl rfl (by simpa using hsame)⟩
  | slept hstage =>
      have hlt := hd.retries hstage
      simp only [hstage, reduceCtorEq, or_self, if_false] at hcalls hsame
      exact ⟨hrefused, hvendor, hd.goto (fun _ _ => rfl) rfl rfl (by simp) hlt (by simp)
        (by simpa using hcalls) rfl rfl (by simpa using hsame)⟩
  | collected hstage =>
      simp only [hstage, reduceCtorEq, or_self, if_false] at hcalls hsame
      exact ⟨hrefused, hvendor, hd.goto (fun i hi => setSlot_slots_of_ne s hi _) rfl rfl
        hpos hle (by simp) (by simpa using hcalls) rfl rfl (by simpa using hsame)⟩
  | sent hstage =>
      simp only [hstage, reduceCtorEq, or_self, if_false] at hcalls hsame
      refine ⟨hrefused, hvendor, hd.goto (fun _ _ => rfl) rfl rfl hpos hle (by simp)
        (by simpa [State.malSendFrame] using hcalls) rfl rfl fun fd rest hfd hframes => ?_⟩
      -- the frame in hand is answered from here on
      rw [if_pos rfl, hframes]
      simp only [State.malSendFrame, List.map_cons, hsame fd rest hfd hframes, hfd]
      rfl
  | released hstage tokens =>
      simp only [hstage, if_true] at hsame
      obtain ⟨fd, rest, hfd, hframes, -⟩ := hd.frame
      refine ⟨hrefused, hvendor, fun i => ?_, hsame fd rest hfd hframes⟩
      by_cases hi : i = d.slot
      · subst hi
        simp [State.setSlot]
      · simpa [State.setSlot, hi] using hd.own_slot i hi

/-! ## The other steps -/

/-- A step that keeps slots in use, server and record keeps the order. -/
theorem State.Orderly.congr {s s' : State} (h : s.Orderly)
    (hslots : ∀ i, (s'.slots i).inUse = (s.slots i).inUse) (hpc : s'.pc = s.pc)
    (hfd : s'.clientFd = s.clientFd) (hframes : s'.frames = s.frames)
    (hanswers : s'.answers = s.answers) (hcalls : s'.vendorCalls = s.vendorCalls)
    (hrefused : s'.refused = s.refused) : s'.Orderly := by
  refine ⟨hrefused.trans h.1, hcalls ▸ h.2.1, ?_⟩
  rw [hpc]
  cases hs : s.pc with
  | idle =>
      obtain ⟨hfree, hans⟩ := h.idle hs
      exact ⟨fun i => (hslots i).trans (hfree i), by rw [hanswers, hframes]; exact hans⟩
  | running d =>
      have hd := h.running hs
      refine ⟨fun i hi => (hslots i).trans (hd.own_slot i hi), hd.attempt_pos, hd.attempt_le,
        hd.retries, hcalls.trans hd.calls, ?_⟩
      rw [hfd, hframes, hanswers]
      exact hd.frame
  | aborted => exact h.not_aborted hs

/-- With all slots free, a frame finds one. -/
theorem freeSlot_of_all_free {s : State} (h : ∀ i, (s.slots i).inUse = false) :
    freeSlot s ≠ none := by
  intro hnone
  have hall := List.find?_eq_none.1 hnone 0 (List.mem_finRange 0)
  simp [h 0] at hall

/-- A frame that comes in between two others is answered, or `malDispatch` is at its first
attempt; but an overflow stops the process. -/
theorem malDispatch_orderly {s : State} {fd : ℕ} (simCount : ℕ) (r : MalRequest)
    (cmdAllocated : Bool) (pRI : Option ℕ) (h : s.Orderly) (hpc : s.pc = .idle)
    (hfd : s.clientFd = some fd) {s' : State}
    (hs' : { s with frames := (fd, r) :: s.frames, vendorCalls := 0 }.malDispatch simCount r
      cmdAllocated pRI = s') :
    ((Event.frame r cmdAllocated pRI).Routable → s'.Orderly) ∧
      (¬ (Event.frame r cmdAllocated pRI).Routable → s'.pc = .aborted) := by
  obtain ⟨hfree, hanswers⟩ := h.idle hpc
  have hdispatched := malDispatch_dispatched simCount
    { s with frames := (fd, r) :: s.frames, vendorCalls := 0 } r cmdAllocated pRI
  rw [hs'] at hdispatched
  have hrouting := malRouting_isSome_iff simCount r.simId
  cases hdispatched with
  | answered slots err hslots hearly =>
      constructor
      · intro _
        refine ⟨h.1, Nat.zero_le _, ?_⟩
        change match s.pc with | .idle => _ | .running d => _ | .aborted => _
        rw [hpc]
        refine ⟨fun i => ?_, ?_⟩
        · -- a slot that is in use now was in use before
          change (slots i).inUse = false
          cases hin : (slots i).inUse with
          | false => rfl
          | true => exact hin.symm.trans ((congrArg Slot.inUse (hslots i hin)).trans (hfree i))
        · simp only [State.malSendFrame, List.map_cons, hanswers, hfd]
          rfl
      · intro hno
        exfalso
        apply hno
        intro hcmd hallocated htoken
        rcases hearly with hearly | hearly | hearly
        · simp [hearly] at hcmd
        · simp [hearly] at hallocated
        · simp [hearly] at htoken
  | refused hnone => exact absurd hnone (freeSlot_of_all_free hfree)
  | aborted hcmd hallocated htoken hnone =>
      refine ⟨fun hroutable => ?_, fun _ => rfl⟩
      obtain ⟨routing, hsome⟩ := hrouting.2 (hroutable hcmd hallocated htoken)
      rw [hnone] at hsome
      exact absurd hsome (by simp)
  | started i cmd t routing _ hsome =>
      refine ⟨fun _ => ⟨h.1, Nat.zero_le _, ?_⟩, fun hno => ?_⟩
      · refine ⟨fun j hj => ?_, Nat.le_refl 1,
          show 1 ≤ malMaxAttempts by decide, by simp [Running.start],
          by simp [Running.start], fd, s.frames, hfd, rfl, hanswers⟩
        exact (congrArg Slot.inUse (setSlot_slots_of_ne _ hj _)).trans (hfree j)
      · exact absurd (fun _ _ _ => hrouting.1 ⟨routing, hsome⟩) hno

/-- **One step.**  It keeps the order, or it is a frame whose SIM id overflows, and stops
the process. -/
theorem step_orderly {simCount : ℕ} {s s' : State} {e : Event} (h : s.Orderly)
    (hs : step simCount s e = some s') :
    (e.Routable → s'.Orderly) ∧ (¬ e.Routable → s'.pc = .aborted) := by
  cases step_transition hs with
  | accept fd hpc =>
      refine ⟨fun _ => ⟨h.1, h.2.1, ?_⟩, fun hno => absurd trivial hno⟩
      change match s.pc with | .idle => _ | .running d => _ | .aborted => _
      rw [hpc]
      exact h.idle hpc
  | disconnect hpc =>
      refine ⟨fun _ => ⟨h.1, h.2.1, ?_⟩, fun hno => absurd trivial hno⟩
      change match s.pc with | .idle => _ | .running d => _ | .aborted => _
      rw [hpc]
      exact h.idle hpc
  | frame fd r cmdAllocated pRI hpc hfd =>
      exact malDispatch_orderly simCount r cmdAllocated pRI h hpc hfd rfl
  | advance d expired _ hpc hadvanced =>
      exact ⟨fun _ => advance_orderly h hpc hadvanced, fun hno => absurd trivial hno⟩
  | complete t err response allocated _ =>
      refine ⟨fun _ => ?_, fun hno => absurd trivial hno⟩
      have hslots := complete_slots s t err response allocated
      unfold State.complete at hslots ⊢
      split at hslots
      · exact h
      · exact h.congr (fun i => rfl) rfl rfl rfl rfl rfl rfl
  | deliver k c _ _ =>
      refine ⟨fun _ => ?_, fun hno => absurd trivial hno⟩
      refine h.congr (fun i => ?_) rfl rfl rfl rfl rfl rfl
      by_cases hi : i = c.slot
      · subst hi
        simp [State.malComplete]
      · simp [State.malComplete, setSlot_slots_of_ne _ hi]

/-! ## Returning -/

/-- A running `malDispatch` can always take a step, once its deadline has passed. -/
theorem advance_isSome (s : State) (d : Running) : ∃ s', s.advance d true = some s' := by
  unfold State.advance
  cases d.stage with
  | wait =>
      simp only [Bool.or_true, if_true]
      split <;> exact ⟨_, rfl⟩
  | _ => exact ⟨_, rfl⟩

/-- By its own steps alone, `malDispatch` returns. -/
theorem State.Orderly.returns {simCount : ℕ} {s : State} (h : s.Orderly) :
    ∃ es, (∀ e ∈ es, ∃ expired, e = Event.advance expired) ∧
      ∃ s', run (step simCount) s es = some s' ∧ s'.pc = .idle := by
  -- the deadlines pass, so the next step is always there, and brings the return closer
  induction hn : s.stepsLeft using Nat.strongRecOn generalizing s with
  | _ n ih =>
      cases hpc : s.pc with
      | idle => exact ⟨[], by simp, s, rfl, hpc⟩
      | aborted => exact absurd hpc h.not_aborted
      | running d =>
          obtain ⟨s₁, hs₁⟩ := advance_isSome s d
          have hadvanced := advance_advanced hs₁
          have hlt := advance_stepsLeft_lt hpc (h.running hpc).retries hadvanced
          obtain ⟨es, hes, s', hrun, hidle⟩ :=
            ih _ (hn ▸ hlt) (advance_orderly h hpc hadvanced) rfl
          have hstep : step simCount s (.advance true) = some s₁ := by
            simp only [step, hpc, hs₁]
          refine ⟨.advance true :: es, fun e he => ?_, s', ?_, hidle⟩
          · rcases List.mem_cons.1 he with rfl | he
            · exact ⟨true, rfl⟩
            · exact hes e he
          · rw [run_cons _ hstep, hrun]

/-- The invariant gives the property. -/
theorem State.Orderly.answersOnce {simCount : ℕ} {s : State} (h : s.Orderly) :
    s.AnswersOnce simCount := by
  refine ⟨?_, h.2.1, fun hpc => (h.idle hpc).1, h.1, h.returns⟩
  unfold State.dueFrames
  cases hpc : s.pc with
  | idle => exact (h.idle hpc).2
  | aborted => exact absurd hpc h.not_aborted
  | running d =>
      obtain ⟨fd, rest, -, hframes, hanswers⟩ := (h.running hpc).frame
      simp only [hanswers]
      split
      · rfl
      · rw [hframes, List.tail_cons]

/-- A stopped process does not return to the server loop. -/
theorem not_answersOnce_of_aborted {simCount : ℕ} {s : State} (h : s.pc = .aborted) :
    ¬ s.AnswersOnce simCount := by
  intro hans
  obtain ⟨es, hes, s', hrun, hidle⟩ := hans.returns
  cases es with
  | nil =>
      cases hrun
      rw [h] at hidle
      exact absurd hidle (by simp)
  | cons e es =>
      obtain ⟨expired, rfl⟩ := hes e List.mem_cons_self
      obtain ⟨s₁, hs₁, -⟩ := run_cons_inv hrun
      simp [step, h] at hs₁

/-! ## Main result -/

/-- While the process runs, the steps of `malDispatch` are bounded. -/
theorem State.Orderly.stepsBounded {simCount : ℕ} {s : State} (h : s.Orderly) :
    s.StepsBounded simCount := by
  intro d hpc e s' hs
  cases step_transition hs with
  | accept fd hidle => exact absurd (hidle.symm.trans hpc) (by simp)
  | disconnect hidle => exact absurd (hidle.symm.trans hpc) (by simp)
  | frame fd r cmdAllocated pRI hidle _ => exact absurd (hidle.symm.trans hpc) (by simp)
  | advance d' expired _ hpc' hadvanced =>
      have hlt := advance_stepsLeft_lt hpc' (h.running hpc').retries hadvanced
      exact ⟨Nat.le_of_lt hlt, fun _ => hlt⟩
  | complete t err response allocated _ =>
      have hpc' : (s.complete t err response allocated).pc = s.pc := by
        unfold State.complete
        split <;> rfl
      refine ⟨?_, fun ⟨expired, he⟩ => absurd he (by simp)⟩
      rw [State.stepsLeft, State.stepsLeft, hpc']
  | deliver k c _ _ => exact ⟨Nat.le_refl _, fun ⟨expired, he⟩ => absurd he (by simp)⟩

theorem step_orderly_or_aborted {simCount : ℕ} {s s' : State} {e : Event}
    (h : s.Orderly ∨ s.pc = .aborted) (hs : step simCount s e = some s') :
    s'.Orderly ∨ s'.pc = .aborted := by
  rcases h with h | hpc
  · by_cases he : e.Routable
    · exact Or.inl ((step_orderly h hs).1 he)
    · exact Or.inr ((step_orderly h hs).2 he)
  · cases e <;> simp [step, hpc] at hs

/-- **When every MAL request is answered once.**  For any number of SIMs and every run, with
any completions at any time: the property holds in all states visited exactly when no frame
that gets as far as the channel arithmetic has a SIM id that makes it overflow.  The steps
of `malDispatch` are bounded in any case. -/
theorem answersOnce_iff (simCount : ℕ) (es : List Event) :
    (Always (step simCount) (State.AnswersOnce simCount) State.init es ↔
      Meets (step simCount) (fun _ e => e.Routable) State.init es) ∧
    Always (step simCount) (State.StepsBounded simCount) State.init es := by
  constructor
  · exact always_iff_meets (fun _ h => h.answersOnce)
      (fun _ _ _ h he hs => (step_orderly h hs).1 he)
      (fun _ _ _ h he hs => not_answersOnce_of_aborted ((step_orderly h hs).2 he)) orderly_init es
  · refine (always_of_step (fun _ _ _ h hs => step_orderly_or_aborted h hs)
      (Or.inl orderly_init) es).mono fun s h => ?_
    rcases h with h | hpc
    · exact h.stepsBounded
    · intro d hd
      rw [hpc] at hd
      exact absurd hd (by simp)

/-- An AT command for SIM id `2 ^ 29` stops the process. -/
theorem hostileSimId_not_answersOnce :
    ¬ ∀ (simCount : ℕ) (es : List Event),
      Always (step simCount) (State.AnswersOnce simCount) State.init es := by
  intro hall
  let command : MalRequest := ⟨2 ^ 29, 2106, 7, [0, 0, 0, 0, 2, 0, 0, 0, 65, 84]⟩
  have hlast : ∃ s', run (step 2) State.init [.accept 5, .frame command true (some 1)] = some s' ∧
      s'.pc = .aborted := ⟨_, rfl, by decide⟩
  obtain ⟨s', hs', hpc⟩ := hlast
  exact not_answersOnce_of_aborted hpc ((hall 2 _).last hs')

end Mal.Dispatch
