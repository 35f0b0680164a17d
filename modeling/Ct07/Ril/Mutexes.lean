/-
# Who holds a channel mutex

Every thread holds the mutexes of its own calls, whatever the order of steps.  The mutexes are
not recursive: when the vendor completes a request from inside a call, `my_dequeue` hands the
next one of the queue to `mtkOnRequestLocked`, which takes a mutex on the thread of that call.

* `step_owned` : a thread holds the mutex of an index for one of its calls, and only then;
* `noSelfDeadlock_iff` : when no thread asks for a mutex that it holds.
-/
import Ct07.Ril.Dispatch

open PartialStep

namespace Ril.Dispatch

/-! ## Calls that have a mutex -/

/-- The call has passed the mutex of its channel; one of `my_enqueue` takes none. -/
def Frame.Locked (f : Frame) : Bool := f.path ≠ .enqueue && f.phase ≠ .waiting

/-- The mutex index of each call that has passed its mutex. -/
def locked (fs : List Frame) : List ℕ :=
  (fs.filter Frame.Locked).map fun f => mtkChannelIndex f.channel

section Locked

variable {f : Frame} {fs : List Frame}

theorem locked_cons (h : f.Locked = true) :
    locked (f :: fs) = mtkChannelIndex f.channel :: locked fs := by
  simp [locked, h]

theorem locked_cons_of_not (h : f.Locked = false) : locked (f :: fs) = locked fs := by
  simp [locked, h]

end Locked

variable {T : Type*} [DecidableEq T]

/-! ## The invariant -/

/-- A thread has passed the mutex of an index once if it holds it, and otherwise not at all;
only its innermost call may be outside the vendor; a call of `my_enqueue` is in the vendor. -/
structure State.Owned (s : State T) : Prop where
  held : ∀ t k, (locked (s.stack t)).count k = if s.chMutex k = some t then 1 else 0
  nested : ∀ t, ∀ f ∈ (s.stack t).tail, f.phase = .calling
  direct : ∀ t, ∀ f ∈ s.stack t, f.path = .enqueue → f.phase = .calling

theorem owned_init : (State.init : State T).Owned :=
  ⟨fun _ _ => by simp [State.init, locked], fun _ _ hf => by simp [State.init] at hf,
    fun _ _ hf => by simp [State.init] at hf⟩

/-- Replacing the calls of one thread keeps what the invariant says of the others. -/
theorem State.Owned.setStack {s s' : State T} (h : s.Owned) (t : T) (fs : List Frame)
    (hs' : s'.stack = Function.update s.stack t fs)
    (hother : ∀ t' k, t' ≠ t → (s'.chMutex k = some t' ↔ s.chMutex k = some t'))
    (hheld : ∀ k, (locked fs).count k = if s'.chMutex k = some t then 1 else 0)
    (hnested : ∀ f ∈ fs.tail, f.phase = .calling)
    (hdirect : ∀ f ∈ fs, f.path = .enqueue → f.phase = .calling) : s'.Owned := by
  refine ⟨fun t' k => ?_, fun t' => ?_, fun t' => ?_⟩
  all_goals
    rw [hs']
    by_cases ht : t' = t
  · subst ht
    rw [Function.update_self]
    exact hheld k
  · rw [Function.update_of_ne ht, h.held t' k]
    simp only [hother t' k ht]
  · subst ht
    rwa [Function.update_self]
  · rw [Function.update_of_ne ht]
    exact h.nested t'
  · subst ht
    rwa [Function.update_self]
  · rw [Function.update_of_ne ht]
    exact h.direct t'

/-- All calls of a thread that can call libril are in the vendor. -/
theorem State.Owned.all_calling {s : State T} (h : s.Owned) {t : T}
    (hcan : canEnter (s.stack t)) : ∀ f ∈ s.stack t, f.phase = .calling := by
  have hnested := h.nested t
  cases hstack : s.stack t with
  | nil => simp
  | cons f fs =>
      rw [hstack] at hcan hnested
      intro g hg
      rcases List.mem_cons.1 hg with rfl | hg
      · simpa [canEnter] using hcan
      · exact hnested g hg

/-- A thread holds a mutex exactly for a call that has passed it. -/
theorem State.Owned.mem_locked {s : State T} (h : s.Owned) (t : T) (k : ℕ) :
    k ∈ locked (s.stack t) ↔ s.chMutex k = some t := by
  rw [← List.count_pos_iff, h.held t k]
  by_cases hk : s.chMutex k = some t <;> simp [hk]

section Returning

variable {s : State T} {t : T} {f : Frame} {fs : List Frame}

theorem State.Owned.held_top (h : s.Owned) (hstack : s.stack t = f :: fs) (k : ℕ) :
    (locked (f :: fs)).count k = if s.chMutex k = some t then 1 else 0 := by
  rw [← hstack]
  exact h.held t k

theorem State.Owned.nested_top (h : s.Owned) (hstack : s.stack t = f :: fs) :
    ∀ g ∈ fs, g.phase = .calling := by
  have hnested := h.nested t
  rwa [hstack] at hnested

theorem State.Owned.direct_top (h : s.Owned) (hstack : s.stack t = f :: fs) :
    ∀ g ∈ fs, g.path = .enqueue → g.phase = .calling := by
  intro g hg
  apply h.direct t
  rw [hstack]
  exact List.mem_cons_of_mem f hg

/-- A call that is not in the vendor is not one of `my_enqueue`. -/
theorem State.Owned.path_ne (h : s.Owned) (hstack : s.stack t = f :: fs)
    (hphase : f.phase ≠ .calling) : f.path ≠ .enqueue := by
  intro henqueue
  apply hphase
  apply h.direct t f _ henqueue
  rw [hstack]
  exact List.mem_cons_self

/-- The innermost call passes its mutex. -/
theorem lock_owned (h : s.Owned) (hstack : s.stack t = f :: fs) (hphase : f.phase = .waiting)
    (hfree : s.chMutex (mtkChannelIndex f.channel) = none) :
    ((s.setMutex (mtkChannelIndex f.channel) (some t)).setStack t
      ({ f with phase := .calling } :: fs)).Owned := by
  have hpath : f.path ≠ .enqueue := h.path_ne hstack (by rw [hphase]; decide)
  have hlocked : Frame.Locked { f with phase := .calling } = true := by
    simp [Frame.Locked, hpath]
  refine h.setStack t ({ f with phase := .calling } :: fs) rfl (fun t' k ht => ?_)
    (fun k => ?_) (h.nested_top hstack) fun g hg henqueue => ?_
  · by_cases hk : k = mtkChannelIndex f.channel
    · subst hk
      simp [State.setMutex, State.setStack, hfree, Ne.symm ht]
    · simp [State.setMutex, State.setStack, hk]
  · have hold := h.held_top hstack k
    rw [locked_cons_of_not (by simp [Frame.Locked, hphase])] at hold
    rw [locked_cons hlocked, List.count_cons, hold]
    by_cases hk : k = mtkChannelIndex f.channel
    · subst hk
      simp [hfree]
    · simp [setMutex_chMutex_of_ne s hk, Ne.symm hk]
  · rcases List.mem_cons.1 hg with rfl | hg
    · rfl
    · exact h.direct_top hstack g hg henqueue

/-- A call of `my_enqueue` is over. -/
theorem directReturns_owned (h : s.Owned) (hstack : s.stack t = f :: fs)
    (hpath : f.path = .enqueue) : ((s.setDispatchChannel t f.saved).setStack t fs).Owned := by
  refine h.setStack t fs rfl (fun _ _ _ => Iff.rfl) (fun k => ?_)
    (fun g hg => h.nested_top hstack g (List.mem_of_mem_tail hg)) (h.direct_top hstack)
  have hold := h.held_top hstack k
  rwa [locked_cons_of_not (by simp [Frame.Locked, hpath])] at hold

/-- The vendor returns to a call that holds its mutex. -/
theorem returns_owned (h : s.Owned) (hstack : s.stack t = f :: fs) (hphase : f.phase = .calling)
    (hpath : f.path ≠ .enqueue) : (s.setStack t ({ f with phase := .returned } :: fs)).Owned := by
  refine h.setStack t ({ f with phase := .returned } :: fs) rfl (fun _ _ _ => Iff.rfl)
    (fun k => ?_) (h.nested_top hstack) fun g hg henqueue => ?_
  · have hold := h.held_top hstack k
    rw [locked_cons (by simp [Frame.Locked, hpath, hphase])] at hold
    rw [locked_cons (by simp [Frame.Locked, hpath])]
    exact hold
  · rcases List.mem_cons.1 hg with rfl | hg
    · exact absurd henqueue hpath
    · exact h.direct_top hstack g hg henqueue

/-- The mutex is given back. -/
theorem unlock_owned (h : s.Owned) (hstack : s.stack t = f :: fs) (hphase : f.phase = .returned) :
    ((s.setMutex (mtkChannelIndex f.channel) none).setStack t fs).Owned := by
  have hpath : f.path ≠ .enqueue := h.path_ne hstack (by rw [hphase]; decide)
  have hlocked : f.Locked = true := by simp [Frame.Locked, hpath, hphase]
  have hown : s.chMutex (mtkChannelIndex f.channel) = some t := by
    rw [← h.mem_locked t, hstack, locked_cons hlocked]
    exact List.mem_cons_self
  refine h.setStack t fs rfl (fun t' k ht => ?_) (fun k => ?_)
    (fun g hg => h.nested_top hstack g (List.mem_of_mem_tail hg)) (h.direct_top hstack)
  · by_cases hk : k = mtkChannelIndex f.channel
    · subst hk
      simp [State.setMutex, State.setStack, hown, Ne.symm ht]
    · simp [State.setMutex, State.setStack, hk]
  · have hold := h.held_top hstack k
    rw [locked_cons hlocked, List.count_cons] at hold
    by_cases hk : k = mtkChannelIndex f.channel
    · subst hk
      simp [hown] at hold ⊢
      omega
    · simpa [setMutex_chMutex_of_ne s hk, Ne.symm hk] using hold

end Returning

/-- **One step.** -/
theorem step_owned {queuing : Bool} {simCount : ℕ} {s s' : State T} {e : Event T} (h : s.Owned)
    (hs : step queuing simCount s e = some s') : s'.Owned := by
  cases step_transition hs with
  | queue q _ _ => exact ⟨h.held, h.nested, h.direct⟩
  | arrive t path channel q _ _ hcan hpath =>
      refine h.setStack t _ rfl (fun _ _ _ => Iff.rfl) (fun k => ?_) (h.all_calling hcan) ?_
      · rw [locked_cons_of_not (by simp [Frame.Locked])]
        exact h.held t k
      · intro f hf henqueue
        rcases List.mem_cons.1 hf with rfl | hf
        · exact absurd henqueue hpath
        · exact h.direct t f hf henqueue
  | direct t cid q _ _ hcan =>
      refine h.setStack t _ rfl (fun _ _ _ => Iff.rfl) (fun k => ?_) (h.all_calling hcan) ?_
      · rw [locked_cons_of_not (by simp [Frame.Locked])]
        exact h.held t k
      · intro f hf henqueue
        rcases List.mem_cons.1 hf with rfl | hf
        · rfl
        · exact h.direct t f hf henqueue
  | lock t f fs _ hstack hphase hfree => exact lock_owned h hstack hphase hfree
  | directReturns t f fs _ hstack _ hpath => exact directReturns_owned h hstack hpath
  | returns t f fs _ hstack hphase hpath => exact returns_owned h hstack hphase hpath
  | unlock t f fs _ hstack hphase => exact unlock_owned h hstack hphase

/-! ## Threads that wait for themselves -/

/-- The innermost call of the thread waits for a mutex that the thread holds. -/
def State.SelfDeadlocked (s : State T) (t : T) : Prop :=
  ∃ f fs, s.stack t = f :: fs ∧ f.phase = .waiting ∧
    s.chMutex (mtkChannelIndex f.channel) = some t

def State.NoSelfDeadlock (s : State T) : Prop := ∀ t, ¬ s.SelfDeadlocked t

/-- No call of the completing thread has passed the mutex that the next request of the queue,
if there is one, needs. -/
def Event.NextFree (queuing : Bool) (s : State T) : Event T → Prop
  | .complete t socketId proxyId =>
      ∀ r ∈ (completeRequest queuing s.queues socketId proxyId).2,
        mtkChannelIndex r.cid ∉ locked (s.stack t)
  | _ => True

section SelfDeadlock

variable {s s' : State T} {queuing : Bool} {simCount : ℕ} {e : Event T}

/-- A step that changes the calls of one thread, and gives no mutex to another one. -/
theorem State.NoSelfDeadlock.setStack (h : s.NoSelfDeadlock) (t : T) (fs : List Frame)
    (hs' : s'.stack = Function.update s.stack t fs)
    (hmutex : ∀ t' k, t' ≠ t → s'.chMutex k = some t' → s.chMutex k = some t')
    (htop : ∀ f ∈ fs.head?, f.phase = .waiting →
      s'.chMutex (mtkChannelIndex f.channel) ≠ some t) : s'.NoSelfDeadlock := by
  rintro t' ⟨f, gs, hstack, hphase, hown⟩
  rw [hs'] at hstack
  by_cases ht : t' = t
  · subst ht
    rw [Function.update_self] at hstack
    exact htop f (by rw [hstack]; rfl) hphase hown
  · rw [Function.update_of_ne ht] at hstack
    exact h t' ⟨f, gs, hstack, hphase, hmutex t' _ ht hown⟩

/-- A call that arrives waits for the thread itself exactly when the thread holds its mutex. -/
theorem arrive_noSelfDeadlock (h : s.NoSelfDeadlock) {t : T} {path : Path} {channel : ℤ}
    (hfree : s.chMutex (mtkChannelIndex channel) ≠ some t) (q : Queues) :
    State.NoSelfDeadlock ({ s with queues := q }.arrive t path channel) := by
  refine h.setStack t _ rfl (fun _ _ _ hk => hk) ?_
  rintro f ⟨⟩ -
  exact hfree

/-- A thread without calls holds no mutex. -/
theorem State.Owned.not_held (howned : s.Owned) {t : T} (hempty : s.stack t = []) (k : ℕ) :
    s.chMutex k ≠ some t := by
  intro hk
  rw [← howned.mem_locked t k, hempty] at hk
  exact absurd hk (by simp [locked])

variable {t : T} {f : Frame} {fs : List Frame}

theorem lock_noSelfDeadlock (h : s.NoSelfDeadlock) :
    ((s.setMutex (mtkChannelIndex f.channel) (some t)).setStack t
      ({ f with phase := .calling } :: fs)).NoSelfDeadlock := by
  refine h.setStack t _ rfl (fun t' k ht hk => ?_) ?_
  · by_cases hindex : k = mtkChannelIndex f.channel
    · subst hindex
      rw [setStack_chMutex, setMutex_chMutex_self] at hk
      exact absurd (Option.some.inj hk).symm ht
    · rwa [setStack_chMutex, setMutex_chMutex_of_ne s hindex] at hk
  · rintro g ⟨⟩ hphase
    cases hphase

/-- The call around the one that is over does not wait. -/
theorem State.Owned.next_calling (howned : s.Owned) (hstack : s.stack t = f :: fs) :
    ∀ g ∈ fs.head?, g.phase ≠ .waiting := by
  intro g hg
  rw [howned.nested_top hstack g (List.mem_of_mem_head? hg)]
  decide

theorem directReturns_noSelfDeadlock (howned : s.Owned) (h : s.NoSelfDeadlock)
    (hstack : s.stack t = f :: fs) :
    ((s.setDispatchChannel t f.saved).setStack t fs).NoSelfDeadlock :=
  h.setStack t fs rfl (fun _ _ _ hk => hk)
    fun g hg hphase => absurd hphase (howned.next_calling hstack g hg)

theorem unlock_noSelfDeadlock (howned : s.Owned) (h : s.NoSelfDeadlock)
    (hstack : s.stack t = f :: fs) :
    ((s.setMutex (mtkChannelIndex f.channel) none).setStack t fs).NoSelfDeadlock := by
  refine h.setStack t fs rfl (fun t' k _ hk => ?_)
    fun g hg hphase => absurd hphase (howned.next_calling hstack g hg)
  by_cases hindex : k = mtkChannelIndex f.channel
  · subst hindex
    rw [setStack_chMutex, setMutex_chMutex_self] at hk
    exact nomatch hk
  · rwa [setStack_chMutex, setMutex_chMutex_of_ne s hindex] at hk

theorem step_noSelfDeadlock (howned : s.Owned) (h : s.NoSelfDeadlock)
    (hfree : e.NextFree queuing s) (hs : step queuing simCount s e = some s') :
    s'.NoSelfDeadlock := by
  cases e with
  | enqueue t r =>
      simp only [step] at hs
      split at hs
      · split at hs
        · cases hs
          exact h
        · cases hs
          refine h.setStack t _ rfl (fun _ _ _ hk => hk) ?_
          rintro f ⟨⟩ hphase
          cases hphase
      · exact absurd hs (by simp)
  | complete t socketId proxyId =>
      simp only [step] at hs
      split at hs
      · split at hs
        · cases hs
          exact h
        · rename_i q r hnext
          cases hs
          -- the next request of the queue is taken on the thread of the completion
          have hnot := hfree r (by rw [hnext]; rfl)
          rw [howned.mem_locked] at hnot
          exact arrive_noSelfDeadlock h hnot q
      · exact absurd hs (by simp)
  | job t proxyId =>
      simp only [step] at hs
      split at hs
      · -- a worker starts without calls, and so without mutexes
        rename_i hempty
        cases hs
        exact arrive_noSelfDeadlock h (howned.not_held hempty _) s.queues
      · exact absurd hs (by simp)
  | mal t simId =>
      simp only [step] at hs
      split at hs
      · rename_i hempty
        obtain ⟨r, -, rfl⟩ := Option.map_eq_some_iff.1 hs
        exact arrive_noSelfDeadlock h (howned.not_held hempty _) s.queues
      · exact absurd hs (by simp)
  | lock t =>
      simp only [step] at hs
      split at hs
      · exact absurd hs (by simp)
      · split at hs
        · cases hs
          exact lock_noSelfDeadlock h
        · exact absurd hs (by simp)
  | vendorReturns t =>
      simp only [step] at hs
      split at hs
      · exact absurd hs (by simp)
      · rename_i f fs hstack
        split at hs
        · split at hs
          · cases hs
            exact directReturns_noSelfDeadlock howned h hstack
          · cases hs
            refine h.setStack t _ rfl (fun _ _ _ hk => hk) ?_
            rintro g ⟨⟩ hphase
            cases hphase
        · exact absurd hs (by simp)
  | unlock t =>
      simp only [step] at hs
      split at hs
      · exact absurd hs (by simp)
      · rename_i f fs hstack
        split at hs
        · cases hs
          exact unlock_noSelfDeadlock howned h hstack
        · exact absurd hs (by simp)

/-- A completion after which the next request needs a mutex of the same thread. -/
theorem step_selfDeadlock (howned : s.Owned) (hnot : ¬ e.NextFree queuing s)
    (hs : step queuing simCount s e = some s') : ¬ s'.NoSelfDeadlock := by
  cases e with
  | complete t socketId proxyId =>
      simp only [Event.NextFree, not_forall, not_not] at hnot
      obtain ⟨r, hr, hlocked⟩ := hnot
      rw [howned.mem_locked] at hlocked
      simp only [step] at hs
      split at hs
      · split at hs
        · rename_i hnext
          rw [hnext] at hr
          exact absurd hr (by simp)
        · rename_i hnext
          rw [hnext] at hr
          cases hr
          cases hs
          exact fun h => h t ⟨_, _, setStack_stack_self _ _ _, rfl, hlocked⟩
      · exact absurd hs (by simp)
  | _ => exact absurd trivial hnot

end SelfDeadlock

/-- **Self-deadlock.**  For any number of SIMs and threads, all lengths of the queues and every
order of steps: no thread ever waits for a mutex that it holds exactly when no request is
completed from inside a call that has passed the mutex which the next request of the queue
needs. -/
theorem noSelfDeadlock_iff (queuing : Bool) (simCount : ℕ) (es : List (Event T)) :
    Always (step queuing simCount) State.NoSelfDeadlock State.init es ↔
      Meets (step queuing simCount) (fun s e => e.NextFree queuing s) State.init es := by
  refine always_iff_meets (fun (s : State T) (h : s.Owned ∧ s.NoSelfDeadlock) => h.2) ?_ ?_
    ⟨owned_init, ?_⟩ es
  · rintro s e s' ⟨howned, h⟩ hfree hs
    exact ⟨step_owned howned hs, step_noSelfDeadlock howned h hfree hs⟩
  · rintro s e s' ⟨howned, -⟩ hnot hs
    exact step_selfDeadlock howned hnot hs
  · rintro t ⟨f, fs, hstack, -, -⟩
    simp [State.init] at hstack

/-- Three requests of one channel: the first goes to the vendor, the others wait.  The vendor
completes the first one, and the second from inside its call. -/
theorem queued_completion_deadlocks :
    ¬ ∀ (simCount : ℕ) (es : List (Event ℕ)),
      Always (step true simCount) State.NoSelfDeadlock State.init es := by
  intro hall
  let signalStrength : Request :=
    ⟨RilRequest.signalStrength.code, .void, 0, rilCmdProxy3, rilCmdProxy3⟩
  have hlast : ∃ s', run (step true 2) (State.init : State ℕ)
      [.enqueue 0 signalStrength, .enqueue 1 signalStrength, .enqueue 2 signalStrength,
        .vendorReturns 0, .complete 3 0 rilCmdProxy3, .lock 3, .complete 3 0 rilCmdProxy3]
        = some s' ∧
      s'.stack 3 = [⟨.dequeue, 1, .waiting, -1⟩, ⟨.dequeue, 1, .calling, -1⟩] ∧
        s'.chMutex 1 = some 3 := ⟨_, rfl, by decide, by decide⟩
  obtain ⟨s', hs', hstack, hmutex⟩ := hlast
  exact (hall 2 _).last hs' 3 ⟨_, _, hstack, rfl, hmutex⟩

end Ril.Dispatch
