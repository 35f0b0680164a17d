/-
# One vendor call per channel

The channel mutexes are there so that the vendor runs one call at a time on each
channel.  The calls that take the mutex keep to that in every interleaving; a request
that `my_enqueue` hands to the vendor directly takes no mutex.

The invariant is a count: on the stack of a thread, the calls that have passed the mutex
of an index are one if the thread holds the mutex, and none otherwise.
-/
import Ct07.Ril.Mutexes

open PartialStep

namespace Ril.Dispatch

/-! ## Calls in progress -/

/-- The mutex index of each vendor call in progress. -/
def calls (fs : List Frame) : List ℕ :=
  (fs.filter fun f => f.phase = .calling).map fun f => mtkChannelIndex f.channel

/-- The mutex index of each call that has passed its mutex. -/
def holds (fs : List Frame) : List ℕ :=
  (fs.filter fun f => f.phase ≠ .waiting).map fun f => mtkChannelIndex f.channel

variable {T : Type*}

/-- At most one vendor call is in progress for each mutex index, and every call is made
by the thread that holds the mutex of its channel. -/
structure State.ChannelsExclusive (s : State T) : Prop where
  once : ∀ t k, (calls (s.stack t)).count k ≤ 1
  one_thread : ∀ t t' k, k ∈ calls (s.stack t) → k ∈ calls (s.stack t') → t = t'
  locked : ∀ t k, k ∈ calls (s.stack t) → s.chMutex k = some t

section Counts

variable {f : Frame} {fs : List Frame} {k : ℕ}

theorem calls_cons_calling (h : f.phase = .calling) :
    calls (f :: fs) = mtkChannelIndex f.channel :: calls fs := by
  simp [calls, h]

/-- A call in progress has passed its mutex. -/
theorem calls_sublist_holds (fs : List Frame) : (calls fs).Sublist (holds fs) := by
  induction fs with
  | nil => exact List.Sublist.slnil
  | cons f fs ih =>
      cases hphase : f.phase with
      | waiting => simpa [calls, holds, hphase] using ih
      | calling => simpa [calls, holds, hphase] using ih
      | returned => simpa [calls, holds, hphase] using ih.cons _

/-- Where all calls are in progress, nothing waits for a mutex. -/
theorem calls_eq_holds (h : ∀ f ∈ fs, f.phase = .calling) : calls fs = holds fs := by
  unfold calls holds
  congr 1
  refine List.filter_congr fun f hf => ?_
  simp [h f hf]

theorem calls_count_le (fs : List Frame) (k : ℕ) : (calls fs).count k ≤ (holds fs).count k :=
  (calls_sublist_holds fs).count_le k

end Counts

/-! ## The invariant -/

variable [DecidableEq T]

/-- A thread has passed the mutex of an index once if it holds it, and otherwise not at
all; only the innermost call of a thread is not in progress; and no request went to the
vendor directly. -/
structure State.Guarded (s : State T) : Prop where
  held : ∀ t k, (holds (s.stack t)).count k = if s.chMutex k = some t then 1 else 0
  nested : ∀ t, ∀ f ∈ (s.stack t).tail, f.phase = .calling
  noDirect : ∀ t, ∀ f ∈ s.stack t, f.path ≠ .enqueue

/-- Without direct calls, every call has to pass its mutex. -/
theorem locked_eq_holds {fs : List Frame} (h : ∀ f ∈ fs, f.path ≠ .enqueue) :
    locked fs = holds fs := by
  unfold locked holds
  congr 1
  refine List.filter_congr fun f hf => ?_
  simp [Frame.Locked, h f hf]

theorem guarded_iff {s : State T} :
    s.Guarded ↔ s.Owned ∧ ∀ t, ∀ f ∈ s.stack t, f.path ≠ .enqueue := by
  constructor
  · intro h
    refine ⟨⟨?_, h.nested, ?_⟩, h.noDirect⟩
    · intro t k
      rw [locked_eq_holds (h.noDirect t)]
      exact h.held t k
    · intro t f hf hpath
      exact absurd hpath (h.noDirect t f hf)
  · rintro ⟨howned, hno⟩
    refine ⟨?_, howned.nested, hno⟩
    intro t k
    rw [← locked_eq_holds (hno t)]
    exact howned.held t k

theorem guarded_init : (State.init : State T).Guarded :=
  guarded_iff.2 ⟨owned_init, fun _ _ hf => by simp [State.init] at hf⟩

/-- The invariant gives the exclusion. -/
theorem State.Guarded.exclusive {s : State T} (h : s.Guarded) : s.ChannelsExclusive := by
  have hlocked : ∀ t k, k ∈ calls (s.stack t) → s.chMutex k = some t := by
    intro t k hk
    have hpos := List.count_pos_iff.2 hk
    have hle := calls_count_le (s.stack t) k
    rw [h.held t k] at hle
    by_contra hno
    rw [if_neg hno] at hle
    omega
  refine ⟨fun t k => ?_, fun t t' k ht ht' => ?_, hlocked⟩
  · apply Nat.le_trans (calls_count_le (s.stack t) k)
    rw [h.held t k]
    split <;> decide
  · exact Option.some.inj ((hlocked t k ht).symm.trans (hlocked t' k ht'))

/-- A request that waits in the queue does not go to the vendor directly. -/
theorem step_noDirect {queuing : Bool} {simCount : ℕ} {s s' : State T} {e : Event T}
    (h : ∀ t, ∀ f ∈ s.stack t, f.path ≠ .enqueue) (he : e.WaitsInQueue queuing s)
    (hs : step queuing simCount s e = some s') : ∀ t, ∀ f ∈ s'.stack t, f.path ≠ .enqueue := by
  have hset (t : T) (fs : List Frame) (hfs : ∀ f ∈ fs, f.path ≠ .enqueue) :
      ∀ t', ∀ f ∈ Function.update s.stack t fs t', f.path ≠ .enqueue := by
    intro t'
    by_cases ht : t' = t
    · subst ht
      rwa [Function.update_self]
    · rw [Function.update_of_ne ht]
      exact h t'
  cases step_transition hs with
  | queue q _ _ => exact h
  | arrive t path channel q _ _ _ hpath =>
      exact hset t _ (List.forall_mem_cons.2 ⟨hpath, h t⟩)
  | direct t cid q hno _ _ => exact absurd he hno
  | lock t f fs _ hstack _ _ =>
      have hpaths := h t
      rw [hstack, List.forall_mem_cons] at hpaths
      exact hset t _ (List.forall_mem_cons.2 ⟨hpaths.1, hpaths.2⟩)
  | directReturns t f fs _ hstack _ hpath =>
      exact absurd hpath (h t f (by rw [hstack]; exact List.mem_cons_self))
  | returns t f fs _ hstack _ hpath =>
      have hpaths := h t
      rw [hstack, List.forall_mem_cons] at hpaths
      exact hset t _ (List.forall_mem_cons.2 ⟨hpath, hpaths.2⟩)
  | unlock t f fs _ hstack _ =>
      have hpaths := h t
      rw [hstack, List.forall_mem_cons] at hpaths
      exact hset t _ hpaths.2

/-- Every step that leaves the request in the queue keeps the invariant. -/
theorem step_guarded {queuing : Bool} {simCount : ℕ} {s s' : State T} {e : Event T}
    (h : s.Guarded) (he : e.WaitsInQueue queuing s)
    (hs : step queuing simCount s e = some s') : s'.Guarded := by
  obtain ⟨howned, hno⟩ := guarded_iff.1 h
  exact guarded_iff.2 ⟨step_owned howned hs, step_noDirect hno he hs⟩

/-- A request that goes to the vendor directly breaks the exclusion: its thread does not
hold the mutex of its channel, or is in a call on that channel already. -/
theorem step_not_exclusive {queuing : Bool} {simCount : ℕ} {s s' : State T} {e : Event T}
    (h : s.Guarded) (he : ¬ e.WaitsInQueue queuing s)
    (hs : step queuing simCount s e = some s') : ¬ s'.ChannelsExclusive := by
  cases step_transition hs with
  | queue q hwait _ => exact absurd hwait he
  | arrive t path channel q hwait _ _ _ => exact absurd hwait he
  | direct t cid q _ _ hcan =>
      intro hex
      have hcalls := hex.once t (mtkChannelIndex cid)
      have hlocked := hex.locked t (mtkChannelIndex cid)
      rw [setStack_stack_self, calls_cons_calling rfl] at hcalls hlocked
      -- the thread would hold the mutex, and then for a call of its own below this one
      have hmutex : s.chMutex (mtkChannelIndex cid) = some t := hlocked List.mem_cons_self
      have hheld := h.held t (mtkChannelIndex cid)
      rw [if_pos hmutex, ← calls_eq_holds ((guarded_iff.1 h).1.all_calling hcan)] at hheld
      rw [List.count_cons_self, hheld] at hcalls
      omega
  | lock t f fs heq _ _ _ => exact absurd (by rw [heq]; trivial) he
  | directReturns t f fs heq _ _ _ => exact absurd (by rw [heq]; trivial) he
  | returns t f fs heq _ _ _ => exact absurd (by rw [heq]; trivial) he
  | unlock t f fs heq _ _ => exact absurd (by rw [heq]; trivial) he

/-! ## Main result -/

/-- **When vendor calls exclude each other.**  With or without channel queues, for any
number of SIMs and threads and every interleaving: the exclusion holds in all states
visited exactly when `my_enqueue` hands no request to the vendor directly. -/
theorem channelsExclusive_iff (queuing : Bool) (simCount : ℕ) (es : List (Event T)) :
    Always (step queuing simCount) State.ChannelsExclusive State.init es ↔
      Meets (step queuing simCount) (fun s e => e.WaitsInQueue queuing s) State.init es :=
  always_iff_meets (fun _ h => h.exclusive) (fun _ _ _ h he hs => step_guarded h he hs)
    (fun _ _ _ h he hs => step_not_exclusive h he hs) guarded_init es

/-- A MAL command of the first SIM is in the vendor on channel 0 when a `HANGUP` comes in
on another thread: both are in the vendor at once. -/
theorem hangup_during_mal_not_exclusive :
    ¬ ∀ (queuing : Bool) (simCount : ℕ) (es : List (Event ℕ)),
      Always (step queuing simCount) State.ChannelsExclusive State.init es := by
  intro hall
  let hangup : Request := ⟨RilRequest.hangup.code, .ints, 0, rilCmdProxy4, rilCmdProxy4⟩
  have hlast : ∃ s', run (step false 2) (State.init : State ℕ)
      [.mal 0 0, .lock 0, .enqueue 1 hangup] = some s' ∧
        0 ∈ calls (s'.stack 0) ∧ 0 ∈ calls (s'.stack 1) := ⟨_, rfl, by decide, by decide⟩
  obtain ⟨s', hs', hmal, hhangup⟩ := hlast
  exact absurd (((hall false 2 _).last hs').one_thread 0 1 0 hmal hhangup) (by decide)

end Ril.Dispatch
