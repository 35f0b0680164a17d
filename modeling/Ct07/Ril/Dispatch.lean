/-
# Vendor calls and the threads they run on

Four paths of libril call into the vendor RIL: `my_enqueue` when it does not queue the
request, `my_dequeue` through `mtkOnRequestLocked`, the workers of the proxy timed
callbacks, and `malDispatch`.  All but the first take the mutex of the call's channel.
The vendor may come back into libril from inside a call, so the calls of a thread nest.

The state has a stack of calls for each thread, the channel mutexes, and the thread
specific value behind `mtkGetDispatchChannel`.  There is no bound on the number of
threads.

Main results:

* `channelsExclusive_iff` : when at most one vendor call is in progress per channel;
* `contextResolved_iff` : when `RIL_myProxyIdByThread` finds the channel of the request
  being executed, and that the dispatch channel is always restored.
-/
import Mathlib.Data.List.Count
import Ct07.Lib.Run
import Ct07.Mal.Routing

open PartialStep

namespace Ril.Dispatch

/-! ## State -/

/-- The paths into the vendor RIL. -/
inductive Path where
  /-- `onRequest`, from `my_enqueue`. -/
  | enqueue
  /-- `onRequest`, from `my_dequeue`. -/
  | dequeue
  /-- A timed callback, from `mtkProxyWorker`. -/
  | worker
  /-- `onRequest`, from `malDispatch`. -/
  | mal
  deriving DecidableEq, Repr

/-- How far a call is: before the mutex, in the vendor, before the unlock. -/
inductive Phase where
  | waiting | calling | returned
  deriving DecidableEq, Repr

/-- A call on the stack of a thread. -/
structure Frame where
  path : Path
  /-- The request's `cid`, the worker's channel, or the channel `malDispatch` locks. -/
  channel : ℤ
  phase : Phase
  /-- The dispatch channel in force when the call began; `savedChannelId` in
  `my_enqueue`. -/
  saved : ℤ
  deriving DecidableEq, Repr

/-- Queues, mutexes, and what each thread is doing. -/
structure State (T : Type*) where
  queues : Queues
  /-- `s_chMutex`: the thread that holds the mutex of each index. -/
  chMutex : ℕ → Option T
  /-- The calls of each thread, the innermost in front. -/
  stack : T → List Frame
  /-- The value each thread has under `s_dispatchChannelKey`, 0 for `NULL`. -/
  dispatchKey : T → ℤ

/-- What can happen. -/
inductive Event (T : Type*) where
  /-- `my_enqueue` is called for a request. -/
  | enqueue (t : T) (r : Request)
  /-- `RIL_onRequestComplete` has answered a request of the socket and the proxy. -/
  | complete (t : T) (socketId : ℕ) (proxyId : RILChannelId)
  /-- `mtkProxyWorker` takes a job that was requested for the proxy. -/
  | job (t : T) (proxyId : ℤ)
  /-- `malDispatch` starts an attempt for the SIM id. -/
  | mal (t : T) (simId : UInt32)
  /-- The innermost call of the thread obtains its mutex and enters the vendor. -/
  | lock (t : T)
  /-- The vendor returns from the innermost call of the thread. -/
  | vendorReturns (t : T)
  /-- The innermost call of the thread releases its mutex. -/
  | unlock (t : T)

variable {T : Type*} [DecidableEq T]

/-- No thread is in libril. -/
def State.init : State T := ⟨Queues.empty, fun _ => none, fun _ => [], fun _ => 0⟩

/-- `mtkGetDispatchChannel`. -/
def State.dispatchChannel (s : State T) (t : T) : ℤ :=
  if s.dispatchKey t = 0 then -1 else s.dispatchKey t - 1

/-- `mtkSetDispatchChannel`. -/
def State.setDispatchChannel (s : State T) (t : T) (cid : ℤ) : State T :=
  { s with dispatchKey := Function.update s.dispatchKey t (cid + 1) }

/-- Replace the calls of a thread. -/
def State.setStack (s : State T) (t : T) (fs : List Frame) : State T :=
  { s with stack := Function.update s.stack t fs }

/-- Give a mutex to a thread, or take it back. -/
def State.setMutex (s : State T) (k : ℕ) (owner : Option T) : State T :=
  { s with chMutex := Function.update s.chMutex k owner }

/-- A thread with these calls runs code that can call libril. -/
def canEnter : List Frame → Bool
  | [] => true
  | f :: _ => f.phase == .calling

section Accessors

variable (s : State T) (t : T)

@[simp] theorem setStack_stack_self (fs : List Frame) : (s.setStack t fs).stack t = fs := by
  simp [State.setStack]

theorem setStack_stack_of_ne {t' : T} (h : t' ≠ t) (fs : List Frame) :
    (s.setStack t fs).stack t' = s.stack t' := by
  simp [State.setStack, h]

@[simp] theorem setStack_chMutex (fs : List Frame) : (s.setStack t fs).chMutex = s.chMutex := rfl

omit [DecidableEq T] in
@[simp] theorem setMutex_stack (k : ℕ) (owner : Option T) :
    (s.setMutex k owner).stack = s.stack := rfl

omit [DecidableEq T] in
@[simp] theorem setMutex_chMutex_self (k : ℕ) (owner : Option T) :
    (s.setMutex k owner).chMutex k = owner := by
  simp [State.setMutex]

omit [DecidableEq T] in
theorem setMutex_chMutex_of_ne {k j : ℕ} (h : j ≠ k) (owner : Option T) :
    (s.setMutex k owner).chMutex j = s.chMutex j := by
  simp [State.setMutex, h]

@[simp] theorem setDispatchChannel_stack (cid : ℤ) :
    (s.setDispatchChannel t cid).stack = s.stack := rfl

@[simp] theorem setDispatchChannel_chMutex (cid : ℤ) :
    (s.setDispatchChannel t cid).chMutex = s.chMutex := rfl

@[simp] theorem setStack_dispatchChannel (fs : List Frame) :
    (s.setStack t fs).dispatchChannel = s.dispatchChannel := rfl

omit [DecidableEq T] in
@[simp] theorem setMutex_dispatchChannel (k : ℕ) (owner : Option T) :
    (s.setMutex k owner).dispatchChannel = s.dispatchChannel := rfl

/-- The shift by one keeps every channel apart from an unset key. -/
@[simp] theorem setDispatchChannel_dispatchChannel_self (cid : ℤ) :
    (s.setDispatchChannel t cid).dispatchChannel t = cid := by
  simp only [State.dispatchChannel, State.setDispatchChannel, Function.update_self]
  split <;> omega

theorem setDispatchChannel_dispatchChannel_of_ne {t' : T} (h : t' ≠ t) (cid : ℤ) :
    (s.setDispatchChannel t cid).dispatchChannel t' = s.dispatchChannel t' := by
  simp [State.dispatchChannel, State.setDispatchChannel, h]

end Accessors

/-! ## Steps -/

/-- The queueing part of `my_enqueue`, in a build with or without channel queues. -/
def enqueueRequest (queuing : Bool) (q : Queues) (r : Request) : Queues × Bool :=
  if queuing then q.enqueue r else (q, false)

/-- The queueing part of `RIL_onRequestComplete`. -/
def completeRequest (queuing : Bool) (q : Queues) (socketId : ℕ) (proxyId : RILChannelId) :
    Queues × Option Request :=
  if queuing then q.complete socketId proxyId else (q, none)

/-- A call that has to take the mutex of its channel first. -/
def State.arrive (s : State T) (t : T) (path : Path) (channel : ℤ) : State T :=
  s.setStack t (⟨path, channel, .waiting, s.dispatchChannel t⟩ :: s.stack t)

/-- One step.  `none` when the event cannot happen in the state, or ends the process. -/
def step (queuing : Bool) (simCount : ℕ) (s : State T) : Event T → Option (State T)
  | .enqueue t r =>
      if canEnter (s.stack t) then
        let (q, pending) := enqueueRequest queuing s.queues r
        if pending then some { s with queues := q }
        else
          -- the source calls `onRequest` here, not `CALL_ONREQUEST`: no mutex is taken
          some (({ s with queues := q }.setDispatchChannel t r.cid).setStack t
            (⟨.enqueue, r.cid, .calling, s.dispatchChannel t⟩ :: s.stack t))
      else none
  | .complete t socketId proxyId =>
      if canEnter (s.stack t) then
        match completeRequest queuing s.queues socketId proxyId with
        | (q, none) => some { s with queues := q }
        | (q, some r) => some ({ s with queues := q }.arrive t .dequeue r.cid)
      else none
  | .job t proxyId =>
      if s.stack t = [] then some (s.arrive t .worker (mtkChannelIndex proxyId)) else none
  | .mal t simId =>
      if s.stack t = [] then
        -- no routing, no call: the arithmetic on the SIM id has trapped
        (Mal.malRouting simCount simId).map fun r => s.arrive t .mal r.chan
      else none
  | .lock t =>
      match s.stack t with
      | [] => none
      | f :: fs =>
          if f.phase = .waiting ∧ s.chMutex (mtkChannelIndex f.channel) = none then
            some ((s.setMutex (mtkChannelIndex f.channel) (some t)).setStack t
              ({ f with phase := .calling } :: fs))
          else none
  | .vendorReturns t =>
      match s.stack t with
      | [] => none
      | f :: fs =>
          if f.phase = .calling then
            -- only `my_enqueue` has saved a channel to restore, and no mutex to release
            if f.path = .enqueue then some ((s.setDispatchChannel t f.saved).setStack t fs)
            else some (s.setStack t ({ f with phase := .returned } :: fs))
          else none
  | .unlock t =>
      match s.stack t with
      | [] => none
      | f :: fs =>
          if f.phase = .returned then
            some ((s.setMutex (mtkChannelIndex f.channel) none).setStack t fs)
          else none

/-- The request, if the event is one, is queued: `my_enqueue` does not call the vendor. -/
def Event.WaitsInQueue (queuing : Bool) (s : State T) : Event T → Prop
  | .enqueue _ r => (enqueueRequest queuing s.queues r).2 = true
  | _ => True

instance (queuing : Bool) (s : State T) (e : Event T) : Decidable (e.WaitsInQueue queuing s) := by
  cases e <;> simp only [Event.WaitsInQueue] <;> infer_instance

/-- What one step can do. -/
inductive Transition (queuing : Bool) (s : State T) (e : Event T) : State T → Prop
  | queue (q : Queues) (he : e.WaitsInQueue queuing s) (hlock : ∀ t, e ≠ .lock t) :
      Transition queuing s e { s with queues := q }
  | arrive (t : T) (path : Path) (channel : ℤ) (q : Queues) (he : e.WaitsInQueue queuing s)
      (hlock : ∀ t, e ≠ .lock t) (hcan : canEnter (s.stack t)) (hpath : path ≠ .enqueue) :
      Transition queuing s e ({ s with queues := q }.arrive t path channel)
  | direct (t : T) (cid : ℕ) (q : Queues) (he : ¬ e.WaitsInQueue queuing s)
      (hlock : ∀ t, e ≠ .lock t) (hcan : canEnter (s.stack t)) :
      Transition queuing s e (({ s with queues := q }.setDispatchChannel t cid).setStack t
        (⟨.enqueue, cid, .calling, s.dispatchChannel t⟩ :: s.stack t))
  | lock (t : T) (f : Frame) (fs : List Frame) (he : e = .lock t) (hstack : s.stack t = f :: fs)
      (hphase : f.phase = .waiting) (hfree : s.chMutex (mtkChannelIndex f.channel) = none) :
      Transition queuing s e ((s.setMutex (mtkChannelIndex f.channel) (some t)).setStack t
        ({ f with phase := .calling } :: fs))
  | directReturns (t : T) (f : Frame) (fs : List Frame) (he : e = .vendorReturns t)
      (hstack : s.stack t = f :: fs) (hphase : f.phase = .calling) (hpath : f.path = .enqueue) :
      Transition queuing s e ((s.setDispatchChannel t f.saved).setStack t fs)
  | returns (t : T) (f : Frame) (fs : List Frame) (he : e = .vendorReturns t)
      (hstack : s.stack t = f :: fs) (hphase : f.phase = .calling) (hpath : f.path ≠ .enqueue) :
      Transition queuing s e (s.setStack t ({ f with phase := .returned } :: fs))
  | unlock (t : T) (f : Frame) (fs : List Frame) (he : e = .unlock t)
      (hstack : s.stack t = f :: fs) (hphase : f.phase = .returned) :
      Transition queuing s e ((s.setMutex (mtkChannelIndex f.channel) none).setStack t fs)

/-- Every step is one of the transitions. -/
theorem step_transition {queuing : Bool} {simCount : ℕ} {s s' : State T} {e : Event T}
    (h : step queuing simCount s e = some s') : Transition queuing s e s' := by
  cases e with
  | enqueue t r =>
      simp only [step] at h
      split at h
      · rename_i hcan
        split at h
        · rename_i hpending
          cases h
          exact .queue _ hpending (by simp)
        · rename_i hpending
          cases h
          exact .direct t r.cid _ hpending (by simp) hcan
      · exact absurd h (by simp)
  | complete t socketId proxyId =>
      simp only [step] at h
      split at h
      · rename_i hcan
        split at h
        · cases h
          exact .queue _ trivial (by simp)
        · cases h
          exact .arrive t .dequeue _ _ trivial (by simp) hcan (by simp)
      · exact absurd h (by simp)
  | job t proxyId =>
      simp only [step] at h
      split at h
      · rename_i hempty
        cases h
        exact .arrive t .worker _ s.queues trivial (by simp) (by rw [hempty]; rfl) (by simp)
      · exact absurd h (by simp)
  | mal t simId =>
      simp only [step] at h
      split at h
      · rename_i hempty
        obtain ⟨r, -, rfl⟩ := Option.map_eq_some_iff.1 h
        exact .arrive t .mal _ s.queues trivial (by simp) (by rw [hempty]; rfl) (by simp)
      · exact absurd h (by simp)
  | lock t =>
      simp only [step] at h
      split at h
      · exact absurd h (by simp)
      · rename_i f fs hstack
        split at h
        · rename_i hcond
          cases h
          exact .lock t f fs rfl hstack hcond.1 hcond.2
        · exact absurd h (by simp)
  | vendorReturns t =>
      simp only [step] at h
      split at h
      · exact absurd h (by simp)
      · rename_i f fs hstack
        split at h
        · rename_i hphase
          split at h
          · rename_i hpath
            cases h
            exact .directReturns t f fs rfl hstack hphase hpath
          · rename_i hpath
            cases h
            exact .returns t f fs rfl hstack hphase hpath
        · exact absurd h (by simp)
  | unlock t =>
      simp only [step] at h
      split at h
      · exact absurd h (by simp)
      · rename_i f fs hstack
        split at h
        · rename_i hphase
          cases h
          exact .unlock t f fs rfl hstack hphase
        · exact absurd h (by simp)

end Ril.Dispatch
