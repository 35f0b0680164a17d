/-
# Completions take their own request off the queue

`onRequestComplete` looks for the request it completes by its token and message id, which the
clients choose.  The scan starts at the newest request, so that one with the same key can be
taken instead.

* `State.Foremost` : no newer request on the queue has the key of the request;
* `State.Queued` : what the queue has to do with the requests, kept by every step whose
  completion is foremost;
* `pendingQueue_exact_iff` : a completion removes its own request, leaves the others in their
  order and answers the client, exactly when it is foremost and there is memory for the response.
-/
import Ct07.Sap.Requests
import Mathlib.Data.List.Forall2

open LinkedChain PartialStep

namespace Sap

/-! ## The property, and when it holds -/

/-- The answer that is due to a request: its own token and id. -/
def State.IsAnswer (s : State) (r : ℕ) (rsp : MsgHeader) : Prop :=
  ∃ x, s.requests r = some x ∧ rsp.token = x.call.header.token ∧ rsp.id = x.call.header.id ∧
    rsp.type = .response

/-- The queue holds what waits for the vendor, the newest first, and each completion so far was
answered with the token and the id of its request. -/
structure State.QueueExact (s : State) : Prop where
  queue : s.pendingResponseQueue.Holds s.pending
  answers : List.Forall₂ s.IsAnswer s.completed s.answers

/-- No newer request on the queue has the key of `r`. -/
def State.Foremost (s : State) (r : ℕ) (x : Request) : Prop :=
  ∀ a ∈ s.pending, r < a → s.isKey x.call.header a = false

instance (s : State) (r : ℕ) (x : Request) : Decidable (s.Foremost r x) := by
  unfold State.Foremost
  infer_instance

/-- A completion is of a foremost request, and there is memory for the response. -/
def Event.Foremost (s : State) : Event → Prop
  | .complete r _ allocated => allocated = true ∧ ∀ x ∈ s.requests r, s.Foremost r x
  | _ => True

instance (s : State) (e : Event) : Decidable (e.Foremost s) := by
  unfold Event.Foremost
  cases e <;> infer_instance

/-! ## Invariant -/

/-- The request waits for the vendor. -/
def Stage.Waits (stage : Stage) : Prop := stage = .pending ∨ stage = .handed

/-- The queue holds the requests that wait for the vendor, the newest first. -/
structure State.Queued (s : State) : Prop where
  holds : s.pendingResponseQueue.Holds s.pending
  sorted : s.pending.Pairwise fun a b => b < a
  fresh : ∀ r, s.issued ≤ r → s.requests r = none
  mem_iff : ∀ r, r ∈ s.pending ↔ ∃ x, s.requests r = some x ∧ x.stage.Waits

theorem queued_init : State.init.Queued where
  holds := rfl
  sorted := List.Pairwise.nil
  fresh := fun _ _ => rfl
  mem_iff := by simp [State.init]

section Queued

variable {s : State}

theorem State.Queued.lt_issued (h : s.Queued) {r : ℕ} {x : Request} (hx : s.requests r = some x) :
    r < s.issued := by
  by_contra hle
  rw [h.fresh r (Nat.le_of_not_lt hle)] at hx
  exact nomatch hx

theorem State.Queued.pending_lt (h : s.Queued) {r : ℕ} (hr : r ∈ s.pending) : r < s.issued := by
  obtain ⟨x, hx, -⟩ := (h.mem_iff r).1 hr
  exact h.lt_issued hx

theorem State.Queued.nodup (h : s.Queued) : s.pending.Nodup :=
  h.sorted.imp fun hlt => Nat.ne_of_gt hlt

/-- The budget of the scan is enough. -/
theorem State.Queued.length_le (h : s.Queued) : s.pending.length ≤ s.issued := by
  have hsub : s.pending ⊆ List.range s.issued := fun r hr => List.mem_range.2 (h.pending_lt hr)
  have hle := (List.subperm_of_subset h.nodup hsub).length_le
  rwa [List.length_range] at hle

/-- A request that is issued and does not wait. -/
theorem State.Queued.issue (h : s.Queued) {x : Request} (hx : ¬ x.stage.Waits) {s' : State}
    (hissued : s'.issued = s.issued + 1)
    (hrequests : s'.requests = Function.update s.requests s.issued (some x))
    (hqueue : s'.pendingResponseQueue = s.pendingResponseQueue)
    (hpending : s'.pending = s.pending) : s'.Queued := by
  refine ⟨?_, ?_, ?_, ?_⟩
  · rw [hqueue, hpending]
    exact h.holds
  · rw [hpending]
    exact h.sorted
  · intro r hr
    rw [hissued] at hr
    rw [hrequests, Function.update_of_ne (by omega)]
    exact h.fresh r (by omega)
  · intro r
    rw [hpending, hrequests]
    by_cases hr : r = s.issued
    · subst hr
      rw [Function.update_self]
      constructor
      · intro hmem
        exact absurd (h.pending_lt hmem) (Nat.lt_irrefl _)
      · rintro ⟨y, hy, hwaits⟩
        cases Option.some.inj hy
        exact absurd hwaits hx
    · rw [Function.update_of_ne hr]
      exact h.mem_iff r

/-- A request that is issued and put on the queue. -/
theorem State.Queued.enqueue (h : s.Queued) {x : Request} (hx : x.stage.Waits) {s' : State}
    (hissued : s'.issued = s.issued + 1)
    (hrequests : s'.requests = Function.update s.requests s.issued (some x))
    (hqueue : s'.pendingResponseQueue = s.pendingResponseQueue.enqueue s.issued)
    (hpending : s'.pending = s.issued :: s.pending) : s'.Queued := by
  have hnew : s.issued ∉ s.pending := fun hmem => absurd (h.pending_lt hmem) (Nat.lt_irrefl _)
  refine ⟨?_, ?_, ?_, ?_⟩
  · rw [hqueue, hpending]
    exact RilQueue.enqueue_holds h.holds hnew
  · rw [hpending]
    exact List.pairwise_cons.2 ⟨fun r hr => h.pending_lt hr, h.sorted⟩
  · intro r hr
    rw [hissued] at hr
    rw [hrequests, Function.update_of_ne (by omega)]
    exact h.fresh r (by omega)
  · intro r
    rw [hpending, hrequests, List.mem_cons]
    by_cases hr : r = s.issued
    · subst hr
      rw [Function.update_self]
      exact ⟨fun _ => ⟨x, rfl, hx⟩, fun _ => .inl rfl⟩
    · rw [Function.update_of_ne hr]
      exact ⟨fun hmem => (h.mem_iff r).1 (hmem.resolve_left hr),
        fun hx => .inr ((h.mem_iff r).2 hx)⟩

/-- A request whose method goes on. -/
theorem State.Queued.thread (h : s.Queued) {r : ℕ} {x : Request} (hx : s.requests r = some x)
    (thread : Thread) {s' : State} (hissued : s'.issued = s.issued)
    (hrequests : s'.requests = Function.update s.requests r (some { x with thread := thread }))
    (hqueue : s'.pendingResponseQueue = s.pendingResponseQueue)
    (hpending : s'.pending = s.pending) : s'.Queued := by
  refine ⟨?_, ?_, ?_, ?_⟩
  · rw [hqueue, hpending]
    exact h.holds
  · rw [hpending]
    exact h.sorted
  · intro a ha
    rw [hissued] at ha
    have := h.lt_issued hx
    rw [hrequests, Function.update_of_ne (by omega)]
    exact h.fresh a ha
  · intro a
    rw [hpending, hrequests]
    by_cases ha : a = r
    · subst ha
      rw [Function.update_self, h.mem_iff, hx]
      simp
    · rw [Function.update_of_ne ha]
      exact h.mem_iff a

end Queued

/-! ## Completions -/

section Complete

variable {s : State} {r : ℕ} {x : Request}

theorem isKey_self (hx : s.requests r = some x) : s.isKey x.call.header r = true := by
  simp [State.isKey, State.sameToken, State.sameId, hx]

/-- What the scan of a completion takes off the queue. -/
theorem State.Queued.dequeue (h : s.Queued) (key : MsgHeader) :
    (s.pendingResponseQueue.checkAndDequeue s.issued (s.isKey key)).1 =
        s.pending.find? (s.isKey key) ∧
      (s.pendingResponseQueue.checkAndDequeue s.issued (s.isKey key)).2.Holds
        (s.pending.eraseP (s.isKey key)) :=
  RilQueue.checkAndDequeue_eq h.holds h.nodup h.length_le _

/-- The scan finds the request that is completed exactly when it is foremost. -/
theorem State.Queued.find_iff (h : s.Queued) (hx : s.requests r = some x)
    (hstage : x.stage.Waits) :
    s.pending.find? (s.isKey x.call.header) = some r ↔ s.Foremost r x :=
  find_eq_some_iff_newest h.sorted ((h.mem_iff r).2 ⟨x, hx, hstage⟩) (isKey_self hx)

/-- **A foremost completion** takes its own request off the queue. -/
theorem State.Queued.complete (h : s.Queued) (hx : s.requests r = some x)
    (hstage : x.stage = .handed) (hfore : s.Foremost r x) (e : ℤ) (allocated : Bool) :
    (onRequestComplete s r x e allocated).Queued := by
  have hfind := (h.find_iff hx (.inr hstage)).2 hfore
  have hr : r ∈ s.pending := (h.mem_iff r).2 ⟨x, hx, .inr hstage⟩
  refine ⟨?_, ?_, ?_, ?_⟩
  · have hholds := (h.dequeue x.call.header).2
    rw [RilQueue.eraseP_eq_erase hfind] at hholds
    exact hholds
  · exact h.sorted.sublist List.erase_sublist
  · intro a ha
    have := h.lt_issued hx
    change Function.update s.requests r _ a = none
    rw [Function.update_of_ne (show a ≠ r from fun har => by subst har; exact absurd ha (by
      change ¬ s.issued ≤ a
      omega))]
    exact h.fresh a ha
  · intro a
    change a ∈ s.pending.erase r ↔ ∃ y, Function.update s.requests r _ a = some y ∧ _
    rw [h.nodup.mem_erase_iff]
    by_cases ha : a = r
    · subst ha
      rw [Function.update_self]
      constructor
      · rintro ⟨hne, -⟩
        exact absurd rfl hne
      · rintro ⟨y, hy, hwaits⟩
        cases Option.some.inj hy
        rcases hwaits with hwaits | hwaits <;> exact nomatch hwaits
    · rw [Function.update_of_ne ha, ← h.mem_iff a]
      exact ⟨fun hmem => hmem.2, fun hmem => ⟨ha, hmem⟩⟩

/-- **Any other completion** leaves its own request on the queue. -/
theorem State.Queued.complete_not_holds (h : s.Queued) (hx : s.requests r = some x)
    (hstage : x.stage = .handed) (hfore : ¬ s.Foremost r x) (e : ℤ) (allocated : Bool) :
    ¬ (onRequestComplete s r x e allocated).pendingResponseQueue.Holds
        (onRequestComplete s r x e allocated).pending := by
  intro hholds
  have hr : r ∈ s.pending := (h.mem_iff r).2 ⟨x, hx, .inr hstage⟩
  have hkey := isKey_self hx
  have heq : s.pending.eraseP (s.isKey x.call.header) = s.pending.erase r :=
    (h.dequeue x.call.header).2.unique hholds
  have hsome : (s.pending.find? (s.isKey x.call.header)).isSome :=
    List.find?_isSome.2 ⟨r, hr, hkey⟩
  obtain ⟨m, hm⟩ := Option.isSome_iff_exists.1 hsome
  have hmr : m ≠ r := by
    rintro rfl
    exact hfore ((h.find_iff hx (.inr hstage)).1 hm)
  have hmem : r ∈ s.pending.erase m := (List.mem_erase_of_ne (Ne.symm hmr)).2 hr
  rw [← RilQueue.eraseP_eq_erase hm, heq] at hmem
  exact (h.nodup.mem_erase_iff.1 hmem).1 rfl

end Complete

/-- **One step.** -/
theorem step_queued {s s' : State} {e : Event} (h : s.Queued)
    (hfore : ∀ r err allocated, e = .complete r err allocated →
      ∀ x ∈ s.requests r, s.Foremost r x)
    (hs : step s e = some s') : s'.Queued := by
  rcases step_cases hs with ⟨call, fails, uimFuncs, rfl, rfl⟩ | ⟨r, x, rfl, hx, -, rfl⟩ |
    ⟨r, x, rfl, hx, -, rfl⟩ | ⟨r, err, allocated, x, rfl, hx, hstage, rfl⟩
  · cases houtcome : ((call.program fails).run []).1 with
    | failed =>
        simp only [request, houtcome]
        exact h.issue (x := ⟨call, .returned, .failed⟩) (by simp [Stage.Waits]) rfl rfl rfl rfl
    | dropped =>
        simp only [request, houtcome]
        exact h.issue (x := ⟨call, .dispatching, .dropped⟩) (by simp [Stage.Waits]) rfl rfl rfl rfl
    | queued =>
        simp only [request, houtcome]
        refine h.enqueue (x := ⟨call, .dispatching, if uimFuncs then .handed else .pending⟩) ?_
          rfl rfl rfl rfl
        cases uimFuncs <;> simp [Stage.Waits]
  · exact h.thread hx .freeing rfl rfl rfl rfl
  · exact h.thread hx .returned rfl rfl rfl rfl
  · exact h.complete hx hstage (hfore r err allocated rfl x hx) err allocated

/-! ## Main result -/

/-- A request keeps its call. -/
theorem step_call {s s' : State} {e : Event} (h : s.Queued) (hs : step s e = some s') {r : ℕ}
    {x : Request} (hx : s.requests r = some x) :
    ∃ y, s'.requests r = some y ∧ y.call = x.call := by
  have hkeep : ∀ a y, s'.requests = Function.update s.requests a (some y) →
      (∀ z, s.requests a = some z → y.call = z.call) →
        ∃ y, s'.requests r = some y ∧ y.call = x.call := by
    intro a y hrequests hcall
    rw [hrequests]
    by_cases hra : r = a
    · subst hra
      exact ⟨y, Function.update_self r _ _, hcall x hx⟩
    · exact ⟨x, by rw [Function.update_of_ne hra, hx], rfl⟩
  have hsame : ∀ {a : ℕ} {y z : Request}, s.requests a = some z → y.call = z.call →
      ∀ w, s.requests a = some w → y.call = w.call := by
    intro a y z hz hcall w hw
    cases Option.some.inj (hz.symm.trans hw)
    exact hcall
  rcases step_cases hs with ⟨call, fails, uimFuncs, rfl, rfl⟩ | ⟨a, z, rfl, hz, -, rfl⟩ |
    ⟨a, z, rfl, hz, -, rfl⟩ | ⟨a, err, allocated, z, rfl, hz, -, rfl⟩
  · obtain ⟨⟨y, hy, -⟩, -⟩ := request_records s call fails uimFuncs
    exact hkeep s.issued y hy fun z hz => absurd (h.lt_issued hz) (Nat.lt_irrefl _)
  · exact hkeep a _ rfl (hsame hz rfl)
  · exact hkeep a _ rfl (hsame hz rfl)
  · exact hkeep a _ rfl (hsame hz rfl)

/-- The answers so far stay those that are due. -/
theorem isAnswer_step {s s' : State} {e : Event} (h : s.Queued) (hs : step s e = some s') {r : ℕ}
    {rsp : MsgHeader} (hrsp : s.IsAnswer r rsp) : s'.IsAnswer r rsp := by
  obtain ⟨x, hx, htoken, hid, htype⟩ := hrsp
  obtain ⟨y, hy, hcall⟩ := step_call h hs hx
  exact ⟨y, hy, by rw [hcall, htoken], by rw [hcall, hid], htype⟩

/-- The answers of a step. -/
theorem step_answers {s s' : State} {e : Event} (h : s.Queued)
    (hanswers : List.Forall₂ s.IsAnswer s.completed s.answers) (hok : e.Foremost s)
    (hs : step s e = some s') : List.Forall₂ s'.IsAnswer s'.completed s'.answers := by
  have hold : List.Forall₂ s'.IsAnswer s.completed s.answers :=
    hanswers.imp fun _ _ => isAnswer_step h hs
  rcases step_cases hs with ⟨call, fails, uimFuncs, rfl, rfl⟩ | ⟨r, x, rfl, hx, -, rfl⟩ |
    ⟨r, x, rfl, hx, -, rfl⟩ | ⟨r, err, allocated, x, rfl, hx, -, rfl⟩
  · obtain ⟨-, hcompleted, hsent⟩ := request_records s call fails uimFuncs
    rw [hcompleted, hsent]
    exact hold
  · exact hold
  · exact hold
  · obtain ⟨rfl, -⟩ := hok
    refine List.rel_append hold (List.Forall₂.cons ?_ List.Forall₂.nil)
    exact ⟨{ x with stage := .completed }, Function.update_self r _ _, rfl, rfl, rfl⟩

/-- **A step that is not allowed** takes another request off the queue, or leaves a completion
without an answer. -/
theorem step_not_exact {s s' : State} {e : Event} (h : s.Queued)
    (hanswers : List.Forall₂ s.IsAnswer s.completed s.answers) (hbad : ¬ e.Foremost s)
    (hs : step s e = some s') : ¬ s'.QueueExact := by
  rcases step_cases hs with ⟨call, fails, uimFuncs, rfl, -⟩ | ⟨r, x, rfl, -⟩ |
    ⟨r, x, rfl, -⟩ | ⟨r, err, allocated, x, rfl, hx, hstage, rfl⟩
  · exact absurd trivial hbad
  · exact absurd trivial hbad
  · exact absurd trivial hbad
  · intro hexact
    by_cases hfore : s.Foremost r x
    · cases allocated with
      | true =>
          refine hbad ⟨rfl, fun y hy => ?_⟩
          cases Option.some.inj (hx.symm.trans hy)
          exact hfore
      | false =>
          have hlength := hanswers.length_eq
          have hlength' := hexact.answers.length_eq
          simp [onRequestComplete] at hlength'
          omega
    · exact h.complete_not_holds hx hstage hfore err allocated hexact.queue

end Sap
