/-
# The order of queued requests

In a build with `RIL_CHANNEL_QUEUING` two channels of each SIM are to have one request in the
vendor at a time.  Here the queues and flags of `ChannelQueue` are put beside a record of
what arrived at `my_enqueue`, what was handed to the vendor, and what the vendor has not
completed, for each SIM and channel.

A completion from inside a vendor call comes after all that the call's own function does to the
queues, so the two are steps one after the other.

* `enqueue_lane` : what `my_enqueue` does to the queue and the flag of a lane;
* `complete_lane` : what `RIL_onRequestComplete` does to them;
* `orderly_iff` : when every channel is served in order, one request at a time.
-/
import Ct07.Lib.Run
import Ct07.Ril.ChannelQueue
import Mathlib.Data.List.Basic

open PartialStep

namespace Ril.Queuing

/-! ## The two operations, lane by lane -/

section Fields

variable (q : Queues) (i : Fin 2) (flag : Bool) (waiting : List Request)

theorem busy_proxy1 (a b : Fin 2 → List Request) :
    busy ⟨a, b, Function.update q.cmdProxy1busy i flag, q.cmdProxy3busy⟩ =
      Function.update (busy q) (i, .proxy1) flag := by
  funext ⟨j, c⟩
  cases c <;> simp [busy, Function.update_apply]

theorem busy_proxy3 (a b : Fin 2 → List Request) :
    busy ⟨a, b, q.cmdProxy1busy, Function.update q.cmdProxy3busy i flag⟩ =
      Function.update (busy q) (i, .proxy3) flag := by
  funext ⟨j, c⟩
  cases c <;> simp [busy, Function.update_apply]

theorem queue_proxy1 (c d : Fin 2 → Bool) :
    queue ⟨Function.update q.proxyCmd1 i waiting, q.proxyCmd3, c, d⟩ =
      Function.update (queue q) (i, .proxy1) waiting := by
  funext ⟨j, c⟩
  cases c <;> simp [queue, Function.update_apply]

theorem queue_proxy3 (c d : Fin 2 → Bool) :
    queue ⟨q.proxyCmd1, Function.update q.proxyCmd3 i waiting, c, d⟩ =
      Function.update (queue q) (i, .proxy3) waiting := by
  funext ⟨j, c⟩
  cases c <;> simp [queue, Function.update_apply]

theorem queue_flags (c d : Fin 2 → Bool) : queue ⟨q.proxyCmd1, q.proxyCmd3, c, d⟩ = queue q := by
  funext ⟨j, c⟩
  cases c <;> rfl

end Fields

section Operations

variable (q : Queues) (r : Request)

/-- `my_enqueue` lets pass what is not to be copied and what has no lane. -/
theorem enqueue_pass (h : r.bf = .ignore ∨ lane r = none) : q.enqueue r = (q, false) := by
  unfold Queues.enqueue
  by_cases hbf : r.bf = .ignore
  · rw [if_pos hbf]
  · have hlane := h.resolve_left hbf
    unfold lane at hlane
    rw [if_neg hbf]
    by_cases h1 : r.proxyId = rilCmdProxy1
    · simp [h1] at hlane
    · by_cases h3 : r.proxyId = rilCmdProxy3
      · simp [h3, rilCmdProxy1, rilCmdProxy3, rilCmd1, rilCmd3] at hlane
      · rw [if_neg h1, if_neg h3]

/-- A request is of the first lane, or of the third, of its slot. -/
theorem lane_eq_some {r : Request} {l : Lane} (h : lane r = some l) :
    l.1 = (if r.socketId = 1 then 1 else 0) ∧ r.proxyId = l.2.proxyId := by
  unfold lane at h
  by_cases h1 : r.proxyId = rilCmdProxy1
  · rw [if_pos h1] at h
    cases Option.some.inj h
    exact ⟨rfl, h1⟩
  · rw [if_neg h1] at h
    by_cases h3 : r.proxyId = rilCmdProxy3
    · rw [if_pos h3] at h
      cases Option.some.inj h
      exact ⟨rfl, h3⟩
    · rw [if_neg h3] at h
      exact absurd h (by simp)

/-- Otherwise it sets the flag that it has looked at, and the request waits exactly when that
was set before. -/
theorem enqueue_lane {l : Lane} (hbf : r.bf ≠ .ignore) (hlane : lane r = some l) :
    (q.enqueue r).2 = busy q (flagLane r l) ∧
      busy (q.enqueue r).1 = Function.update (busy q) (flagLane r l) true ∧
      queue (q.enqueue r).1 = Function.update (queue q) l
        (if busy q (flagLane r l) then queue q l ++ [r] else queue q l) := by
  obtain ⟨slot, c⟩ := l
  obtain ⟨hslot, hproxy⟩ := lane_eq_some hlane
  simp only at hslot hproxy
  unfold Queues.enqueue
  rw [if_neg hbf, ← hslot]
  cases c with
  | proxy1 =>
      have h1 : r.proxyId = rilCmdProxy1 := hproxy
      by_cases hpower : r.request = RilRequest.radioPower.code
      · have hflag : flagLane r (slot, .proxy1) = (0, .proxy1) := by simp [flagLane, hpower]
        rw [if_pos h1, if_pos hpower, hflag]
        exact ⟨rfl, busy_proxy1 q 0 true _ _, queue_proxy1 q slot _ _ _⟩
      · have hflag : flagLane r (slot, .proxy1) = (slot, .proxy1) := by simp [flagLane, hpower]
        rw [if_pos h1, if_neg hpower, hflag]
        exact ⟨rfl, busy_proxy1 q slot true _ _, queue_proxy1 q slot _ _ _⟩
  | proxy3 =>
      have h3 : r.proxyId = rilCmdProxy3 := hproxy
      have h1 : r.proxyId ≠ rilCmdProxy1 := by
        rw [h3]
        decide
      rw [if_neg h1, if_pos h3]
      exact ⟨rfl, busy_proxy3 q slot true _ _, queue_proxy3 q slot _ _ _⟩

/-- A completion takes the next request of its lane, and the flag says whether there is one. -/
theorem complete_lane (l : Lane) :
    (q.complete (socketId l) l.2.proxyId).2 = (queue q l).head? ∧
      busy (q.complete (socketId l) l.2.proxyId).1 =
        Function.update (busy q) l (!(queue q l).isEmpty) ∧
      queue (q.complete (socketId l) l.2.proxyId).1 =
        Function.update (queue q) l (queue q l).tail := by
  obtain ⟨slot, c⟩ := l
  have hslot : (if socketId (slot, c) = 0 then (0 : Fin 2) else 1) = slot := by
    unfold socketId
    by_cases h : slot = 0
    · simp [h]
    · have h1 : slot = 1 := by omega
      simp [h1]
  cases c with
  | proxy1 =>
      have hcomplete : q.complete (socketId (slot, .proxy1)) Channel.proxy1.proxyId =
          { q with cmdProxy1busy := Function.update q.cmdProxy1busy slot false }.dequeue slot
            rilCmdProxy1 := by
        unfold Queues.complete
        rw [hslot]
        exact if_pos rfl
      simp only [hcomplete]
      unfold Queues.dequeue
      rw [if_pos rfl]
      cases hq : q.proxyCmd1 slot with
      | nil =>
          have hqueue : queue q (slot, .proxy1) = [] := hq
          -- an empty queue stays as it is, and only the flag is cleared
          have hsame : Function.update (queue q) (slot, .proxy1) [] = queue q := by
            rw [← hqueue, Function.update_eq_self]
          simp only [hqueue, Function.update_idem, List.tail_nil, hsame]
          exact ⟨rfl, busy_proxy1 q slot false _ _, queue_flags q _ _⟩
      | cons r rs =>
          have hqueue : queue q (slot, .proxy1) = r :: rs := hq
          simp only [hqueue, Function.update_idem]
          exact ⟨rfl, busy_proxy1 q slot true _ _, queue_proxy1 q slot rs _ _⟩
  | proxy3 =>
      have hne : rilCmdProxy3 ≠ rilCmdProxy1 := by decide
      have hcomplete : q.complete (socketId (slot, .proxy3)) Channel.proxy3.proxyId =
          { q with cmdProxy3busy := Function.update q.cmdProxy3busy slot false }.dequeue slot
            rilCmdProxy3 := by
        unfold Queues.complete
        rw [hslot]
        exact (if_neg hne).trans (if_pos rfl)
      simp only [hcomplete]
      unfold Queues.dequeue
      rw [if_neg hne, if_pos rfl]
      cases hq : q.proxyCmd3 slot with
      | nil =>
          have hqueue : queue q (slot, .proxy3) = [] := hq
          have hsame : Function.update (queue q) (slot, .proxy3) [] = queue q := by
            rw [← hqueue, Function.update_eq_self]
          simp only [hqueue, Function.update_idem, List.tail_nil, hsame]
          exact ⟨rfl, busy_proxy3 q slot false _ _, queue_flags q _ _⟩
      | cons r rs =>
          have hqueue : queue q (slot, .proxy3) = r :: rs := hq
          simp only [hqueue, Function.update_idem]
          exact ⟨rfl, busy_proxy3 q slot true _ _, queue_proxy3 q slot rs _ _⟩

end Operations

/-! ## Runs -/

/-- The three records are beside the code's data. -/
structure State where
  queues : Queues
  /-- what `my_enqueue` was called for -/
  arrived : Lane → List Request
  /-- what was handed to the vendor -/
  sent : Lane → List Request
  /-- what the vendor has not completed -/
  outstanding : Lane → List Request

def State.init : State := ⟨.empty, fun _ => [], fun _ => [], fun _ => []⟩

/-- What can happen next. -/
inductive Event where
  | enqueue (r : Request)
  /-- the vendor completes the outstanding request `k` of the lane -/
  | complete (l : Lane) (k : ℕ)
  deriving DecidableEq

/-- The vendor is called for a request. -/
def State.hand (s : State) (l : Lane) (r : Request) : State :=
  { s with
    sent := Function.update s.sent l (s.sent l ++ [r])
    outstanding := Function.update s.outstanding l (s.outstanding l ++ [r]) }

/-- `my_enqueue`.  When there is no memory for an entry of the queue the process ends. -/
def enqueue (s : State) (r : Request) : State :=
  let (q, pending) := s.queues.enqueue r
  let s := { s with queues := q }
  match lane r with
  | none => s
  | some l =>
      let s := { s with arrived := Function.update s.arrived l (s.arrived l ++ [r]) }
      if pending then s else s.hand l r

/-- `RIL_onRequestComplete` -/
def complete (s : State) (l : Lane) (k : ℕ) : State :=
  let (q, next) := s.queues.complete (socketId l) l.2.proxyId
  let s := { s with
    queues := q
    outstanding := Function.update s.outstanding l ((s.outstanding l).eraseIdx k) }
  match next with
  | none => s
  | some r =>
      match lane r with
      | none => s
      | some l' => s.hand l' r

def step (s : State) : Event → Option State
  | .enqueue r => if r.socketId < 2 then some (enqueue s r) else none
  | .complete l k => if k < (s.outstanding l).length then some (complete s l k) else none

/-! ## One lane -/

/-- What there is of a lane. -/
structure View where
  arrived : List Request
  sent : List Request
  outstanding : List Request
  queue : List Request
  busy : Bool

def State.view (s : State) (l : Lane) : View :=
  ⟨s.arrived l, s.sent l, s.outstanding l, queue s.queues l, busy s.queues l⟩

/-- A lane is served in order, one request at a time; its flag is set, and requests wait, only
while one is outstanding. -/
structure View.Orderly (v : View) : Prop where
  single : v.outstanding.length ≤ 1
  order : v.sent ++ v.queue = v.arrived
  busy : v.busy = true → v.outstanding ≠ []
  served : v.queue ≠ [] → v.outstanding ≠ []

namespace View

variable {v : View} (r : Request)

/-- A request waits in the lane. -/
def waits (v : View) : View := { v with arrived := v.arrived ++ [r], queue := v.queue ++ [r] }

/-- A request is handed over as it arrives. -/
def handed (v : View) (flag : Bool) : View :=
  { v with
    arrived := v.arrived ++ [r]
    sent := v.sent ++ [r]
    outstanding := v.outstanding ++ [r]
    busy := flag }

/-- The outstanding request `k` is completed. -/
def completed (v : View) (k : ℕ) : View :=
  { v with
    sent := v.sent ++ v.queue.head?.toList
    outstanding := v.outstanding.eraseIdx k ++ v.queue.head?.toList
    queue := v.queue.tail
    busy := !v.queue.isEmpty }

theorem waits_orderly_iff (h : v.Orderly) : (v.waits r).Orderly ↔ v.outstanding ≠ [] := by
  constructor
  · intro h'
    have hqueue : v.queue ++ [r] ≠ [] := by simp
    exact h'.served hqueue
  · intro hout
    refine ⟨h.single, ?_, h.busy, fun _ => hout⟩
    show v.sent ++ (v.queue ++ [r]) = v.arrived ++ [r]
    rw [← List.append_assoc, h.order]

theorem handed_orderly_iff (h : v.Orderly) (flag : Bool) :
    (v.handed r flag).Orderly ↔ v.outstanding = [] := by
  constructor
  · intro h'
    -- with another one outstanding there would be two
    have hsingle : (v.outstanding ++ [r]).length ≤ 1 := h'.single
    rw [List.length_append, List.length_singleton] at hsingle
    exact List.eq_nil_of_length_eq_zero (by omega)
  · intro hout
    have hqueue : v.queue = [] := by
      by_contra hne
      exact h.served hne hout
    have horder := h.order
    rw [hqueue, List.append_nil] at horder
    refine ⟨?_, ?_, fun _ => by simp [handed], fun _ => by simp [handed]⟩
    · simp [handed, hout]
    · simp [handed, hqueue, horder]

theorem flagged_orderly_iff (h : v.Orderly) :
    View.Orderly { v with busy := true } ↔ v.outstanding ≠ [] :=
  ⟨fun h' => h'.busy rfl, fun hout => ⟨h.single, h.order, fun _ => hout, h.served⟩⟩

theorem completed_orderly (h : v.Orderly) {k : ℕ} (hk : k < v.outstanding.length) :
    (v.completed k).Orderly := by
  -- the request that is completed is the only one
  have herase : v.outstanding.eraseIdx k = [] := by
    have hsingle := h.single
    apply List.eq_nil_of_length_eq_zero
    rw [List.length_eraseIdx_of_lt hk]
    omega
  have horder := h.order
  cases hq : v.queue with
  | nil =>
      rw [hq, List.append_nil] at horder
      refine ⟨?_, ?_, ?_, ?_⟩ <;> simp [completed, herase, hq, horder]
  | cons r rs =>
      rw [hq] at horder
      refine ⟨?_, ?_, ?_, ?_⟩ <;> simp [completed, herase, hq, ← horder]

end View

/-! ## What a step does to the lanes -/

section Steps

variable (s : State) {r : Request} {l : Lane}

theorem enqueue_of_no_lane (h : lane r = none) : enqueue s r = s := by
  unfold enqueue
  rw [enqueue_pass s.queues r (Or.inr h), h]

/-- A request that is not to be copied is handed over, and no flag is set. -/
theorem enqueue_ignore_view (hbf : r.bf = .ignore) (hlane : lane r = some l) :
    (enqueue s r).view = Function.update s.view l ((s.view l).handed r (s.view l).busy) := by
  unfold enqueue
  rw [enqueue_pass s.queues r (Or.inl hbf), hlane]
  funext l'
  by_cases hl : l' = l
  · subst hl
    simp [State.view, State.hand, View.handed]
  · simp [State.view, State.hand, hl]

/-- A request that finds the flag set waits. -/
theorem enqueue_waits_view (hbf : r.bf ≠ .ignore) (hlane : lane r = some l)
    (hbusy : busy s.queues (flagLane r l) = true) :
    (enqueue s r).view = Function.update s.view l ((s.view l).waits r) := by
  obtain ⟨hpending, hflag, hqueue⟩ := enqueue_lane s.queues r hbf hlane
  have hsame : Function.update (busy s.queues) (flagLane r l) true = busy s.queues := by
    rw [← hbusy, Function.update_eq_self]
  rw [hsame] at hflag
  rw [if_pos hbusy] at hqueue
  rw [hbusy] at hpending
  unfold enqueue
  rw [hlane]
  simp only [hpending, if_true]
  funext l'
  by_cases hl : l' = l
  · subst hl
    simp [State.view, View.waits, hflag, hqueue]
  · simp [State.view, hflag, hqueue, hl]

/-- A request that finds the flag unset sets it and is handed over. -/
theorem enqueue_direct_view (hbf : r.bf ≠ .ignore) (hlane : lane r = some l)
    (hbusy : busy s.queues (flagLane r l) = false) :
    (enqueue s r).view =
      Function.update
        (Function.update s.view (flagLane r l) { s.view (flagLane r l) with busy := true }) l
        ((s.view l).handed r (if l = flagLane r l then true else (s.view l).busy)) := by
  obtain ⟨hpending, hflag, hqueue⟩ := enqueue_lane s.queues r hbf hlane
  have hsame : Function.update (queue s.queues) l (queue s.queues l) = queue s.queues :=
    Function.update_eq_self l _
  rw [if_neg (by simp [hbusy]), hsame] at hqueue
  rw [hbusy] at hpending
  unfold enqueue
  rw [hlane]
  simp only [hpending, Bool.false_eq_true, if_false]
  funext l'
  by_cases hl : l' = l
  · subst hl
    by_cases hf : l' = flagLane r l'
    · simp [State.view, State.hand, View.handed, hflag, hqueue, ← hf]
    · simp [State.view, State.hand, View.handed, hflag, hqueue, hf]
  · by_cases hf : l' = flagLane r l
    · subst hf
      simp [State.view, State.hand, hflag, hqueue, hl]
    · simp [State.view, State.hand, hflag, hqueue, hl, hf]

/-- A completion hands over the request that waits in front. -/
theorem complete_view (hplaced : ∀ r ∈ queue s.queues l, lane r = some l) (k : ℕ) :
    (complete s l k).view = Function.update s.view l ((s.view l).completed k) := by
  obtain ⟨hnext, hflag, hqueue⟩ := complete_lane s.queues l
  unfold complete
  simp only [hnext]
  cases hq : queue s.queues l with
  | nil =>
      rw [hq] at hflag hqueue
      funext l'
      by_cases hl : l' = l
      · subst hl
        simp [State.view, View.completed, hflag, hqueue, hq]
      · simp [State.view, hflag, hqueue, hl]
  | cons r rs =>
      have hlane : lane r = some l := hplaced r (by rw [hq]; exact List.mem_cons_self)
      rw [hq] at hflag hqueue
      simp only [List.head?_cons, hlane]
      funext l'
      by_cases hl : l' = l
      · subst hl
        simp [State.view, State.hand, View.completed, hflag, hqueue, hq]
      · simp [State.view, State.hand, hflag, hqueue, hl]

end Steps

/-! ## Main result -/

/-- Every lane is served in order, one request at a time. -/
def State.Orderly (s : State) : Prop := ∀ l, (s.view l).Orderly

/-- Requests wait in their own lane. -/
def State.Placed (s : State) : Prop := ∀ l, ∀ r ∈ (s.view l).queue, lane r = some l

/-- A request that is not to be copied comes when nothing of its lane is outstanding; any other
finds the flag it looks at as its lane is, and a flag of another lane that it sets belongs to
one with a request outstanding. -/
def RegularIn (s : State) (r : Request) (l : Lane) : Prop :=
  if r.bf = .ignore then s.outstanding l = []
  else if busy s.queues (flagLane r l) = true then s.outstanding l ≠ []
  else s.outstanding l = [] ∧ (flagLane r l = l ∨ s.outstanding (flagLane r l) ≠ [])

instance (s : State) (r : Request) (l : Lane) : Decidable (RegularIn s r l) := by
  unfold RegularIn
  infer_instance

def Event.Regular (s : State) : Event → Prop
  | .enqueue r =>
      match lane r with
      | none => True
      | some l => RegularIn s r l
  | .complete _ _ => True

theorem orderly_init : State.init.Orderly := by
  rintro ⟨slot, c⟩
  cases c <;> exact ⟨Nat.zero_le _, rfl, by simp [State.view, State.init, Queues.empty, busy],
    by simp [State.view, State.init, Queues.empty, queue]⟩

theorem placed_init : State.init.Placed := by
  rintro ⟨slot, c⟩ r hr
  cases c <;> simp [State.view, State.init, Queues.empty, queue] at hr

section Main

variable {s : State}

/-- After an update of one lane, the lanes are orderly exactly when that one is. -/
theorem orderly_update_iff {s' : State} (h : s.Orderly) {l : Lane} {v : View}
    (hview : s'.view = Function.update s.view l v) : s'.Orderly ↔ v.Orderly := by
  unfold State.Orderly
  rw [hview, Function.forall_update_iff s.view fun _ v => v.Orderly]
  exact ⟨fun h' => h'.1, fun hv => ⟨hv, fun l' _ => h l'⟩⟩

theorem enqueue_orderly_iff (h : s.Orderly) (r : Request) :
    (enqueue s r).Orderly ↔ (Event.enqueue r).Regular s := by
  unfold Event.Regular
  cases hlane : lane r with
  | none =>
      rw [enqueue_of_no_lane s hlane]
      simpa [hlane] using h
  | some l =>
      simp only [hlane]
      unfold RegularIn
      by_cases hbf : r.bf = .ignore
      · rw [if_pos hbf, orderly_update_iff h (enqueue_ignore_view s hbf hlane),
          View.handed_orderly_iff r (h l)]
        exact Iff.rfl
      rw [if_neg hbf]
      cases hbusy : busy s.queues (flagLane r l) with
      | true =>
          rw [if_pos rfl, orderly_update_iff h (enqueue_waits_view s hbf hlane hbusy),
            View.waits_orderly_iff r (h l)]
          exact Iff.rfl
      | false =>
          rw [if_neg (by simp)]
          have hview := enqueue_direct_view s hbf hlane hbusy
          by_cases hflag : flagLane r l = l
          · rw [hflag, Function.update_idem] at hview
            rw [orderly_update_iff h hview, View.handed_orderly_iff r (h l), and_iff_left]
            · exact Iff.rfl
            · exact Or.inl hflag
          · -- two lanes change: the flag of one, the record of the other
            unfold State.Orderly
            rw [hview, Function.forall_update_iff _ fun _ v => View.Orderly v,
              View.handed_orderly_iff r (h l)]
            apply and_congr Iff.rfl
            constructor
            · intro h'
              have hf := h' (flagLane r l) hflag
              rw [Function.update_self, View.flagged_orderly_iff (h _)] at hf
              exact Or.inr hf
            · intro hf l' _
              have hf' := hf.resolve_left hflag
              by_cases hl' : l' = flagLane r l
              · subst hl'
                rw [Function.update_self, View.flagged_orderly_iff (h _)]
                exact hf'
              · rw [Function.update_of_ne hl']
                exact h l'

theorem enqueue_placed (h : s.Placed) (r : Request) : (enqueue s r).Placed := by
  cases hlane : lane r with
  | none =>
      rw [enqueue_of_no_lane s hlane]
      exact h
  | some l =>
      unfold State.Placed
      by_cases hbf : r.bf = .ignore
      · rw [enqueue_ignore_view s hbf hlane,
          Function.forall_update_iff s.view fun l' v => ∀ r ∈ v.queue, lane r = some l']
        exact ⟨h l, fun l' _ => h l'⟩
      cases hbusy : busy s.queues (flagLane r l) with
      | true =>
          rw [enqueue_waits_view s hbf hlane hbusy,
            Function.forall_update_iff s.view fun l' v => ∀ r ∈ v.queue, lane r = some l']
          refine ⟨?_, fun l' _ => h l'⟩
          intro r' hr'
          rcases List.mem_append.1 hr' with hold | hnew
          · exact h l r' hold
          · rw [List.mem_singleton.1 hnew]
            exact hlane
      | false =>
          rw [enqueue_direct_view s hbf hlane hbusy,
            Function.forall_update_iff _ fun l' (v : View) => ∀ r ∈ v.queue, lane r = some l']
          refine ⟨h l, fun l' _ => ?_⟩
          by_cases hf : l' = flagLane r l
          · subst hf
            rw [Function.update_self]
            exact h _
          · rw [Function.update_of_ne hf]
            exact h l'

theorem complete_orderly (h : s.Orderly) (hplaced : s.Placed) {l : Lane} {k : ℕ}
    (hk : k < (s.outstanding l).length) : (complete s l k).Orderly := by
  rw [orderly_update_iff h (complete_view s (hplaced l) k)]
  exact View.completed_orderly (h l) hk

theorem complete_placed (hplaced : s.Placed) (l : Lane) (k : ℕ) : (complete s l k).Placed := by
  unfold State.Placed
  rw [complete_view s (hplaced l) k,
    Function.forall_update_iff s.view fun l' v => ∀ r ∈ v.queue, lane r = some l']
  exact ⟨fun r hr => hplaced l r (List.mem_of_mem_tail hr), fun l' _ => hplaced l'⟩

/-- What a step leads to. -/
theorem step_cases {s' : State} {e : Event} (h : step s e = some s') :
    (∃ r, e = .enqueue r ∧ s' = enqueue s r) ∨
      ∃ l k, e = .complete l k ∧ k < (s.outstanding l).length ∧ s' = complete s l k := by
  cases e with
  | enqueue r =>
      simp only [step, Option.ite_none_right_eq_some, Option.some.injEq] at h
      exact Or.inl ⟨r, rfl, h.2.symm⟩
  | complete l k =>
      simp only [step, Option.ite_none_right_eq_some, Option.some.injEq] at h
      exact Or.inr ⟨l, k, rfl, h.1, h.2.symm⟩

end Main

/-- **Channel queues.**  Along a run of `my_enqueue` and `RIL_onRequestComplete` every queued
channel of either SIM is served in order and one request at a time, with its flag set and
requests waiting only while one is outstanding, exactly when every request comes as
`Event.Regular` says. -/
theorem orderly_iff (es : List Event) :
    Always step State.Orderly State.init es ↔
      Meets step (fun s e => e.Regular s) State.init es := by
  refine always_iff_meets (fun (s : State) (h : s.Orderly ∧ s.Placed) => h.1) ?_ ?_
    ⟨orderly_init, placed_init⟩ es
  · rintro s e s' ⟨h, hplaced⟩ hok hs
    obtain ⟨r, rfl, rfl⟩ | ⟨l, k, rfl, hk, rfl⟩ := step_cases hs
    · exact ⟨(enqueue_orderly_iff h r).2 hok, enqueue_placed hplaced r⟩
    · exact ⟨complete_orderly h hplaced hk, complete_placed hplaced l k⟩
  · rintro s e s' ⟨h, -⟩ hok hs
    obtain ⟨r, rfl, rfl⟩ | ⟨l, k, rfl, -, -⟩ := step_cases hs
    · exact fun h' => hok ((enqueue_orderly_iff h r).1 h')
    · exact absurd trivial hok

/-- RADIO_POWER for a SIM. -/
def radioPower (socketId : ℕ) : Request :=
  ⟨RilRequest.radioPower.code, .ints, socketId, rilCmdProxy1, rilCmdProxy1⟩

/-- RADIO_POWER for the second SIM sets the flag of the first, whose channel is blocked with
nothing outstanding. -/
theorem radioPower_blocks : ¬ ∀ es, Always step State.Orderly State.init es := by
  intro h
  have hbusy := ((h [.enqueue (radioPower 1)]).2 _ rfl (0, .proxy1)).busy
  exact absurd (hbusy (by decide)) (by decide)

end Ril.Queuing
