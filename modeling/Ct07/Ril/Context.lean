/-
# The channel the vendor finds for its thread

The vendor asks `RIL_myProxyIdByThread` for the channel of the thread it runs on.  When
its own lookup has no valid answer, libril answers with the thread's dispatch channel,
which `my_enqueue` sets around the vendor call and restores afterwards.  The other two
paths to `onRequest` leave the dispatch channel as it is.

Main result: `contextResolved_iff`.
-/
import Ct07.Ril.Dispatch

open PartialStep

namespace Ril.Dispatch

/-! ## Asking for the channel -/

/-- `MAX_RIL_CHANNELS`. -/
def maxRilChannels (simCount : ℕ) : ℤ :=
  if 3 < simCount then 24 else if 2 < simCount then 18 else if 1 < simCount then 12 else 6

/-- The vendor's lookup has no valid channel. -/
def LookupMisses (simCount : ℕ) (lookup : ℤ) : Prop :=
  lookup < 0 ∨ maxRilChannels simCount ≤ lookup

instance (simCount : ℕ) (lookup : ℤ) : Decidable (LookupMisses simCount lookup) :=
  inferInstanceAs (Decidable (_ ∨ _))

variable {T : Type*}

/-- `RIL_myProxyIdByThread` on thread `t`, when the vendor's lookup gives `lookup`. -/
def State.myProxyIdByThread (s : State T) (simCount : ℕ) (armed : Bool) (t : T) (lookup : ℤ) :
    ℤ :=
  if LookupMisses simCount lookup ∧ 0 ≤ s.dispatchChannel t ∧ armed then s.dispatchChannel t
  else lookup

/-- The innermost `onRequest` in progress. -/
def executing (fs : List Frame) : Option Frame :=
  fs.find? fun f => f.phase = .calling ∧ f.path ≠ .worker

/-- While a thread executes `onRequest` and the fix is armed, a lookup that misses is
answered with the channel of the innermost request being executed. -/
def State.ContextResolved (simCount : ℕ) (s : State T) : Prop :=
  ∀ t f, executing (s.stack t) = some f → ∀ lookup, LookupMisses simCount lookup →
    s.myProxyIdByThread simCount true t lookup = f.channel

variable [DecidableEq T]

/-- When the vendor returns from the innermost call of a thread, the dispatch channel of
the thread is the one that was in force when the call began. -/
def State.ChannelRestored (queuing : Bool) (simCount : ℕ) (s : State T) : Prop :=
  ∀ t f fs s', s.stack t = f :: fs → f.phase = .calling →
    step queuing simCount s (.vendorReturns t) = some s' → s'.dispatchChannel t = f.saved

/-- The call that enters the vendor, if the event is one behind a mutex, does so on a
thread whose dispatch channel is the call's channel already; callbacks excepted. -/
def Event.FindsChannelSet (s : State T) : Event T → Prop
  | .lock t => ∀ f ∈ (s.stack t).head?, f.path ≠ .worker →
      0 ≤ f.channel ∧ s.dispatchChannel t = f.channel
  | _ => True

omit [DecidableEq T] in
theorem findsChannelSet_of_ne_lock {s : State T} {e : Event T} (h : ∀ t, e ≠ .lock t) :
    e.FindsChannelSet s := by
  cases e with
  | lock t => exact absurd rfl (h t)
  | _ => trivial

/-! ## The dispatch channel along the calls of a thread -/

/-- The dispatch channel that a thread with these calls has. -/
def inForce : List Frame → ℤ
  | [] => -1
  | f :: fs => if f.path = .enqueue then f.channel else inForce fs

/-- What holds of the calls of a thread in every run: each remembers the channel in force
below it, and a request handed over directly is in progress, on a channel. -/
def Remembered : List Frame → Prop
  | [] => True
  | f :: fs => f.saved = inForce fs ∧
      (f.path = .enqueue → f.phase = .calling ∧ 0 ≤ f.channel) ∧ Remembered fs

/-- Each `onRequest` in progress has its own channel in force. -/
def OwnChannel : List Frame → Prop
  | [] => True
  | f :: fs => (f.phase = .calling → f.path ≠ .worker →
      0 ≤ f.channel ∧ inForce (f :: fs) = f.channel) ∧ OwnChannel fs

/-- The dispatch channel of every thread is the one its calls have set. -/
def State.Tracked (s : State T) : Prop :=
  ∀ t, s.dispatchChannel t = inForce (s.stack t) ∧ Remembered (s.stack t)

omit [DecidableEq T] in
theorem tracked_init : (State.init : State T).Tracked :=
  fun _ => ⟨by simp [State.dispatchChannel, State.init, inForce], trivial⟩

/-- Only a call that `my_enqueue` makes has a channel of its own. -/
theorem inForce_cons {f : Frame} {fs : List Frame} (h : f.path ≠ .enqueue) :
    inForce (f :: fs) = inForce fs := by
  rw [inForce, if_neg h]

/-- The innermost `onRequest` has its channel in force, if each has. -/
theorem inForce_executing {fs : List Frame} {f : Frame} (hown : OwnChannel fs)
    (hrem : Remembered fs) (h : executing fs = some f) :
    0 ≤ f.channel ∧ inForce fs = f.channel := by
  induction fs with
  | nil => exact absurd h (by simp [executing])
  | cons g fs ih =>
      obtain ⟨hg, hown'⟩ := hown
      obtain ⟨-, hdirect, hrem'⟩ := hrem
      -- the innermost call is the one, or it is behind a mutex or a callback
      by_cases hin : g.phase = .calling ∧ g.path ≠ .worker
      · have hgf : g = f := by simpa [executing, hin] using h
        rw [← hgf]
        exact hg hin.1 hin.2
      · have hpath : g.path ≠ .enqueue := by
          intro hpath
          exact hin ⟨(hdirect hpath).1, by rw [hpath]; decide⟩
        have hskip : executing fs = some f := by
          rw [executing, List.find?_cons_of_neg (by simpa using hin)] at h
          exact h
        rw [inForce_cons hpath]
        exact ih hown' hrem' hskip

/-! ## One step -/

omit [DecidableEq T] in
/-- A step of thread `t` has to be looked at for `t` only. -/
theorem State.Tracked.update {s s' : State T} (h : s.Tracked) {t : T}
    (hother : ∀ t', t' ≠ t → s'.dispatchChannel t' = s.dispatchChannel t' ∧
      s'.stack t' = s.stack t')
    (hself : s'.dispatchChannel t = inForce (s'.stack t) ∧ Remembered (s'.stack t)) :
    s'.Tracked := by
  intro t'
  by_cases ht : t' = t
  · rw [ht]
    exact hself
  · obtain ⟨hdispatch, hstack⟩ := hother t' ht
    rw [hdispatch, hstack]
    exact h t'

/-- Every step keeps track of the dispatch channels. -/
theorem step_tracked {queuing : Bool} {simCount : ℕ} {s s' : State T} {e : Event T}
    (h : s.Tracked) (hs : step queuing simCount s e = some s') : s'.Tracked := by
  cases step_transition hs with
  | queue q _ _ => exact h
  | arrive t path channel q _ _ _ hpath =>
      refine h.update (t := t) (fun t' ht => ⟨rfl, setStack_stack_of_ne _ t ht _⟩) ?_
      simp only [State.arrive, setStack_dispatchChannel, setStack_stack_self]
      rw [inForce_cons hpath]
      exact ⟨(h t).1, (h t).1, fun hp => absurd hp hpath, (h t).2⟩
  | direct t cid q _ _ _ =>
      refine h.update (t := t) (fun t' ht => ⟨?_, setStack_stack_of_ne _ t ht _⟩) ?_
      · exact setDispatchChannel_dispatchChannel_of_ne _ t ht cid
      · rw [setStack_dispatchChannel, setDispatchChannel_dispatchChannel_self,
          setStack_stack_self]
        exact ⟨rfl, (h t).1, fun _ => ⟨rfl, Int.natCast_nonneg cid⟩, (h t).2⟩
  | lock t f fs _ hstack hphase _ =>
      obtain ⟨hforce, hsaved, hdirect, hrem⟩ := hstack ▸ h t
      have hpath : f.path ≠ .enqueue := fun hp => by simp [(hdirect hp).1] at hphase
      refine h.update (t := t) (fun t' ht => ⟨rfl, setStack_stack_of_ne _ t ht _⟩) ?_
      rw [setStack_stack_self]
      exact ⟨hforce, hsaved, fun hp => absurd hp hpath, hrem⟩
  | directReturns t f fs _ hstack _ _ =>
      obtain ⟨hforce, hsaved, hdirect, hrem⟩ := hstack ▸ h t
      refine h.update (t := t) (fun t' ht => ⟨?_, setStack_stack_of_ne _ t ht _⟩) ?_
      · exact setDispatchChannel_dispatchChannel_of_ne s t ht f.saved
      · rw [setStack_dispatchChannel, setDispatchChannel_dispatchChannel_self,
          setStack_stack_self]
        exact ⟨hsaved, hrem⟩
  | returns t f fs _ hstack _ hpath =>
      obtain ⟨hforce, hsaved, hdirect, hrem⟩ := hstack ▸ h t
      refine h.update (t := t) (fun t' ht => ⟨rfl, setStack_stack_of_ne _ t ht _⟩) ?_
      rw [setStack_stack_self]
      exact ⟨hforce, hsaved, fun hp => absurd hp hpath, hrem⟩
  | unlock t f fs _ hstack hphase =>
      obtain ⟨hforce, hsaved, hdirect, hrem⟩ := hstack ▸ h t
      have hpath : f.path ≠ .enqueue := fun hp => by simp [(hdirect hp).1] at hphase
      refine h.update (t := t) (fun t' ht => ⟨rfl, setStack_stack_of_ne _ t ht _⟩) ?_
      rw [setStack_stack_self]
      rw [inForce_cons hpath] at hforce
      exact ⟨hforce, hrem⟩

/-- Each `onRequest` in progress, on any thread, has its own channel in force. -/
def State.AllOwnChannel (s : State T) : Prop := ∀ t, OwnChannel (s.stack t)

omit [DecidableEq T] in
theorem allOwnChannel_init : (State.init : State T).AllOwnChannel := fun _ => trivial

/-- Replacing the calls of one thread. -/
theorem State.AllOwnChannel.setStack {s s' : State T} (h : s.AllOwnChannel) (t : T)
    {fs : List Frame} (hs' : s'.stack = Function.update s.stack t fs) (hfs : OwnChannel fs) :
    s'.AllOwnChannel := by
  intro t'
  rw [hs']
  by_cases ht : t' = t
  · subst ht
    rwa [Function.update_self]
  · rw [Function.update_of_ne ht]
    exact h t'

/-- A step behind which the channel is set keeps every `onRequest` on its own channel. -/
theorem step_allOwnChannel {queuing : Bool} {simCount : ℕ} {s s' : State T} {e : Event T}
    (htracked : s.Tracked) (h : s.AllOwnChannel) (he : e.FindsChannelSet s)
    (hs : step queuing simCount s e = some s') : s'.AllOwnChannel := by
  cases step_transition hs with
  | queue q _ _ => exact h
  | arrive t path channel q _ _ _ _ =>
      exact h.setStack t rfl ⟨fun hphase => absurd hphase (by simp), h t⟩
  | direct t cid q _ _ _ =>
      exact h.setStack t rfl ⟨fun _ _ => ⟨Int.natCast_nonneg cid, rfl⟩, h t⟩
  | lock t f fs heq hstack _ _ =>
      have hforce := (htracked t).1
      rw [hstack] at hforce
      refine h.setStack t rfl ⟨fun _ hpath => ?_, (hstack ▸ h t : OwnChannel (f :: fs)).2⟩
      rw [heq] at he
      obtain ⟨hpos, hset⟩ := he f (by rw [hstack]; rfl) hpath
      exact ⟨hpos, hforce.symm.trans hset⟩
  | directReturns t f fs _ hstack _ _ =>
      exact h.setStack t rfl (hstack ▸ h t : OwnChannel (f :: fs)).2
  | returns t f fs _ hstack _ _ =>
      exact h.setStack t rfl ⟨fun hphase => absurd hphase (by simp),
        (hstack ▸ h t : OwnChannel (f :: fs)).2⟩
  | unlock t f fs _ hstack _ =>
      exact h.setStack t rfl (hstack ▸ h t : OwnChannel (f :: fs)).2

omit [DecidableEq T] in
/-- The two invariants give the property. -/
theorem contextResolved_of_ownChannel {simCount : ℕ} {s : State T} (htracked : s.Tracked)
    (h : s.AllOwnChannel) : s.ContextResolved simCount := by
  intro t f hf lookup hmiss
  obtain ⟨hpos, hforce⟩ := inForce_executing (h t) (htracked t).2 hf
  rw [← (htracked t).1] at hforce
  rw [State.myProxyIdByThread, if_pos ⟨hmiss, by omega, rfl⟩, hforce]

/-- A request that enters the vendor on a thread with another dispatch channel, or none, is
not resolved. -/
theorem step_not_contextResolved {queuing : Bool} {simCount : ℕ} {s s' : State T}
    {e : Event T} (he : ¬ e.FindsChannelSet s)
    (hs : step queuing simCount s e = some s') : ¬ s'.ContextResolved simCount := by
  intro hres
  cases step_transition hs with
  | lock t f fs heq hstack _ _ =>
      rw [heq] at he
      simp only [Event.FindsChannelSet, hstack, List.head?_cons, Option.mem_some_iff,
        forall_eq', Classical.not_imp] at he
      obtain ⟨hpath, hset⟩ := he
      have hfound := hres t { f with phase := .calling } (by
        rw [setStack_stack_self]
        simp [executing, hpath])
      have hmiss : ∀ lookup : ℤ, lookup < 0 → LookupMisses simCount lookup := fun _ => Or.inl
      -- two lookups that miss cannot both be the channel, so the fallback has to be taken
      have hone := hfound (-1) (hmiss _ (by decide))
      have htwo := hfound (-2) (hmiss _ (by decide))
      simp only [State.myProxyIdByThread, hmiss _ (by decide : (-1 : ℤ) < 0),
        hmiss _ (by decide : (-2 : ℤ) < 0), setStack_dispatchChannel, setMutex_dispatchChannel,
        true_and, and_true] at hone htwo
      split at hone
      · rename_i hpos
        exact hset ⟨by omega, hone⟩
      · rename_i hneg
        rw [if_neg hneg] at htwo
        omega
  | queue q _ hlock => exact he (findsChannelSet_of_ne_lock hlock)
  | arrive t path channel q _ hlock _ _ => exact he (findsChannelSet_of_ne_lock hlock)
  | direct t cid q _ hlock _ => exact he (findsChannelSet_of_ne_lock hlock)
  | directReturns t f fs heq _ _ _ => exact he (by rw [heq]; trivial)
  | returns t f fs heq _ _ _ => exact he (by rw [heq]; trivial)
  | unlock t f fs heq _ _ => exact he (by rw [heq]; trivial)

/-- The dispatch channel is restored whenever it has been kept track of. -/
theorem channelRestored_of_tracked {queuing : Bool} {simCount : ℕ} {s : State T}
    (h : s.Tracked) : s.ChannelRestored queuing simCount := by
  intro t f fs s' hstack hphase hs
  obtain ⟨hforce, hsaved, -, -⟩ := hstack ▸ h t
  simp only [step, hstack, if_pos hphase] at hs
  split at hs
  · cases hs
    rw [setStack_dispatchChannel, setDispatchChannel_dispatchChannel_self]
  · rename_i hpath
    cases hs
    rw [setStack_dispatchChannel, hforce, inForce_cons hpath, hsaved]

/-! ## Main result -/

/-- **When the vendor finds the channel of its request.**  With or without channel queues,
for any number of SIMs and threads, every interleaving and every nesting: the context is
resolved in all states visited exactly when each request that enters the vendor behind a
mutex finds its channel set already.  The dispatch channel is restored in any case. -/
theorem contextResolved_iff (queuing : Bool) (simCount : ℕ) (es : List (Event T)) :
    (Always (step queuing simCount) (State.ContextResolved simCount) State.init es ↔
      Meets (step queuing simCount) (fun s e => e.FindsChannelSet s) State.init es) ∧
    Always (step queuing simCount) (State.ChannelRestored queuing simCount) State.init es := by
  constructor
  · refine always_iff_meets
      (fun s (h : s.Tracked ∧ s.AllOwnChannel) => contextResolved_of_ownChannel h.1 h.2)
      (fun s e s' h he hs => ?_) (fun s e s' _ he hs => step_not_contextResolved he hs)
      ⟨tracked_init, allOwnChannel_init⟩ es
    exact ⟨step_tracked h.1 hs, step_allOwnChannel h.1 h.2 he hs⟩
  · exact (always_of_step (fun _ _ _ h hs => step_tracked h hs) tracked_init es).mono
      fun _ h => channelRestored_of_tracked h

/-- While `malDispatch` executes a command of the first SIM, its thread has no dispatch
channel: a lookup that misses stays what it is. -/
theorem mal_not_contextResolved :
    ¬ ∀ (queuing : Bool) (simCount : ℕ) (es : List (Event ℕ)),
      Always (step queuing simCount) (State.ContextResolved simCount) State.init es := by
  intro hall
  have hlast : ∃ s', run (step false 2) (State.init : State ℕ) [.mal 0 0, .lock 0] = some s' ∧
      executing (s'.stack 0) = some ⟨.mal, 0, .calling, -1⟩ ∧
      s'.myProxyIdByThread 2 true 0 (-1) = -1 := ⟨_, rfl, by decide, by decide⟩
  obtain ⟨s', hs', hexec, hstays⟩ := hlast
  have hfound := (hall false 2 _).last hs' 0 _ hexec (-1) (by decide)
  rw [hstays] at hfound
  exact absurd hfound (by decide)

end Ril.Dispatch
