/-
# Acknowledgements between vendor, libril and client

From version 13 on the vendor may acknowledge a request before it answers it, and the client
acknowledges what libril has sent on its own account: such messages are flagged, and each of them
grabs the wake lock, which an acknowledgement of the client releases.

* `State`, `step` : the pending requests, the wake lock, and what has been called;
* `acknowledgements_truthful` : which responses are flagged, in every run;
* `wakeLock_counts_iff` : when the wake lock is counted by the messages that await an
  acknowledgement.
-/
import Ct07.Event.WakeLock
import Ct07.Radio.Unsol
import Ct07.Ril.Pending

open LinkedChain PartialStep

namespace Ril.Acknowledgement

/-! ## State -/

/-- A call of the service: `radio::acknowledgeRequest`, or the response function of a request with
`RESPONSE_SOLICITED_ACK_EXP` or `RESPONSE_SOLICITED`. -/
inductive Message where
  | acknowledgeRequest (number : ℕ)
  | response (number : ℕ) (ackExp : Bool)
  deriving DecidableEq

def Message.number : Message → ℕ
  | .acknowledgeRequest n => n
  | .response n _ => n

/-- `log` and `expected` are records beside the code's data. -/
structure State where
  pending : Pending.State
  wakeLock : WakeLock.State
  /-- the calls that the vendor's acknowledgements and completions lead to, the latest first -/
  log : List Message
  /-- the flagged messages that the client has got since the last timeout, and not acknowledged -/
  expected : ℕ

def State.init : State := ⟨Pending.State.init, WakeLock.State.init, [], 0⟩

/-! ## Operations -/

section Operations

variable (c : Commands) (mtkCommandStart simCount : ℕ) (version : ℤ)

/-- A flagged message: the wake lock is grabbed for it.  `created` is the record of the timeout,
and `sent` whether the client gets the message. -/
def sendFlagged (s : State) (created : Option ℕ) (sent : Bool) : Option State :=
  (WakeLock.step version s.wakeLock (.grab created)).map fun wakeLock => { s with
    wakeLock := wakeLock
    expected := if sent then s.expected + 1 else s.expected }

/-- `RIL_onRequestAck` -/
def onRequestAck (s : State) (t : Option ℕ) (strange : ℕ) : State :=
  let pending := Pending.onRequestAck simCount s.pending t strange
  match t, Pending.checkAndDequeueRequestInfoIfAck simCount s.pending t strange true with
  | some t, (_, true) => { s with
      pending := pending
      log :=
        if (s.pending.heap t).any fun ri => !ri.cancelled then
          .acknowledgeRequest (s.pending.requestOf t) :: s.log
        else s.log }
  | _, _ => s

/-- The request that `RIL_onRequestComplete` takes off its list. -/
def completed (s : Pending.State) (t : Option ℕ) (strange : ℕ) : Option (ℕ × RequestInfo) :=
  if t.any s.malInflight then none
  else
    match t, Pending.checkAndDequeueRequestInfoIfAck simCount s t strange false with
    | some t, (_, true) => (s.heap t).map (t, ·)
    | _, _ => none

/-- The response is flagged. -/
def ackExp (ri : RequestInfo) : Bool := decide (13 ≤ version) && ri.wasAckSent

/-- `RIL_onRequestComplete` -/
def onRequestComplete (s : State) (t : Option ℕ) (strange : ℕ) (created : Option ℕ)
    (sent : Bool) : Option State :=
  let pending := Pending.onRequestComplete c simCount s.pending t strange
  match completed simCount s.pending t strange with
  | none => some { s with pending := pending }
  | some (a, ri) =>
      if ri.isLocal || ri.cancelled then some { s with pending := pending }
      else
        let function := (c.at ri.pCI).responseFunction
        let log :=
          if function.isSome then
            .response (s.pending.requestOf a) (ackExp version ri) :: s.log
          else s.log
        if sent && function.isNone then none
        else if ackExp version ri then
          (sendFlagged version s created sent).map fun s =>
            { s with pending := pending, log := log }
        else some { s with pending := pending, log := log }

/-- The timeout that `send_unsolResponse` arms itself before version 13. -/
def scheduleTimeout (w : WakeLock.State) : Option ℕ → Option WakeLock.State
  | none => WakeLock.releaseWakeLock version w
  | some p => do
      let w := { w with
        armed := Function.update w.armed p (some ⟨false, w.grabs⟩)
        grabs := w.grabs + 1 }
      let w ← WakeLock.markLast w
      some { w with last := some p }

/-- `send_unsolResponse`, for the row that it uses. -/
def sendUnsolResponse (s : State) (row : Radio.Unsol.UnsolResponseInfo) (created : Option ℕ)
    (sent : Bool) : Option State :=
  if sent && row.responseFunction.isNone then none
  else if (Radio.Unsol.deliver version 0 row).wakeLock then
    if 13 ≤ version then sendFlagged version s created sent
    else do
      let w ← WakeLock.step version s.wakeLock (.grab created)
      let w ← scheduleTimeout version w created
      some { s with wakeLock := w }
  else some s

/-- `RadioImpl::responseAcknowledgement`; `awaited` is whether it is for one of the messages of
`expected`. -/
def responseAcknowledgement (s : State) (awaited : Bool) : Option State :=
  if awaited && s.expected == 0 then none
  else
    (WakeLock.step version s.wakeLock .release).map fun wakeLock => { s with
      wakeLock := wakeLock
      expected := if awaited then s.expected - 1 else s.expected }

/-- The timer callback of a wake timeout. -/
def wakeTimeout (s : State) (p : ℕ) : Option State :=
  (WakeLock.step version s.wakeLock (.expire p)).map fun wakeLock => { s with
    wakeLock := wakeLock
    expected := if (s.wakeLock.armed p).any fun r => !r.cancelled then 0 else s.expected }

/-! ## Steps -/

inductive Event where
  /-- a request is issued, or a token of `malDispatch` is -/
  | pending (e : Pending.Event)
  | onRequestAck (t : Option ℕ) (strange : ℕ)
  | onRequestComplete (t : Option ℕ) (strange : ℕ) (created : Option ℕ) (sent : Bool)
  | sendUnsolResponse (row : Radio.Unsol.UnsolResponseInfo) (created : Option ℕ) (sent : Bool)
  | responseAcknowledgement (awaited : Bool)
  | wakeTimeout (p : ℕ)

def step (s : State) : Event → Option State
  | .pending e =>
      match e with
      | .onRequestAck .. => none
      | .onRequestComplete .. => none
      | e => (Pending.step c mtkCommandStart simCount s.pending e).map fun pending =>
          { s with pending := pending }
  | .onRequestAck t strange => some (onRequestAck simCount s t strange)
  | .onRequestComplete t strange created sent =>
      onRequestComplete c simCount version s t strange created sent
  | .sendUnsolResponse row created sent => sendUnsolResponse version s row created sent
  | .responseAcknowledgement awaited => responseAcknowledgement version s awaited
  | .wakeTimeout p => wakeTimeout version s p

end Operations

/-! ## What is proved -/

/-- What the client can rely on, for the calls in a log: a response is flagged exactly when the
version is 13 or later and the request was acknowledged before, and it is the last call for its
request. -/
def Truthful (version : ℤ) : List Message → Prop
  | [] => True
  | .acknowledgeRequest n :: log => (∀ b, .response n b ∉ log) ∧ Truthful version log
  | .response n b :: log =>
      (b = true ↔ 13 ≤ version ∧ .acknowledgeRequest n ∈ log) ∧ (∀ b', .response n b' ∉ log) ∧
        Truthful version log

/-- The count is the number of the messages that await an acknowledgement, and the lock is held
while there are any. -/
def State.Counts (s : State) : Prop :=
  s.wakeLock.count = s.expected ∧ (s.wakeLock.held = true ↔ 0 < s.expected)

/-- A grab whose timeout is created goes with a message that arrives, and any other one with a
message that does not, when none is awaited. -/
def Matched (s : State) (created : Option ℕ) (sent : Bool) : Prop :=
  created.isSome = sent ∧ (created = none → s.expected = 0)

instance (s : State) (created : Option ℕ) (sent : Bool) : Decidable (Matched s created sent) :=
  inferInstanceAs (Decidable (_ ∧ _))

/-- The completion of the token grabs the wake lock. -/
def grabs (simCount : ℕ) (version : ℤ) (p : Pending.State) (t : Option ℕ) (strange : ℕ) : Bool :=
  (completed simCount p t strange).any fun x =>
    !(x.2.isLocal || x.2.cancelled) && ackExp version x.2

/-- The event does not upset the count. -/
def Clean (simCount : ℕ) (version : ℤ) (s : State) : Event → Prop
  | .onRequestComplete t strange created sent =>
      grabs simCount version s.pending t strange = true → Matched s created sent
  | .sendUnsolResponse row created sent => row.wakeType = .wakePartial → Matched s created sent
  | .responseAcknowledgement awaited => awaited = false → s.expected = 0
  | _ => True

instance (simCount : ℕ) (version : ℤ) (s : State) : DecidablePred (Clean simCount version s)
  | .onRequestComplete .. => inferInstanceAs (Decidable (_ → Matched s _ _))
  | .sendUnsolResponse .. => inferInstanceAs (Decidable (_ → Matched s _ _))
  | .responseAcknowledgement _ => inferInstanceAs (Decidable (_ = _ → _ = _))
  | .pending _ => isTrue trivial
  | .onRequestAck .. => isTrue trivial
  | .wakeTimeout _ => isTrue trivial

/-! ## The log -/

/-- What the log knows of the pending requests. -/
structure Recorded (simCount : ℕ) (version : ℤ) (p : Pending.State) (log : List Message) :
    Prop where
  wellFormed : p.WellFormed simCount
  truthful : Truthful version log
  acked : ∀ a ri, p.heap a = some ri → ri.cancelled = false ∧
    (ri.wasAckSent = true ↔ .acknowledgeRequest (p.requestOf a) ∈ log)
  unanswered : ∀ a ri b, p.heap a = some ri → .response (p.requestOf a) b ∉ log
  number_lt : ∀ m ∈ log, m.number < p.issued

theorem recorded_init (simCount : ℕ) (version : ℤ) :
    Recorded simCount version Pending.State.init [] where
  wellFormed := Pending.wellFormed_init simCount
  truthful := trivial
  acked := fun a ri ha => by simp [Pending.State.init] at ha
  unanswered := fun a ri b ha => by simp [Pending.State.init] at ha
  number_lt := fun m hm => by simp at hm

section Log

variable {c : Commands} {mtkCommandStart simCount : ℕ} {version : ℤ} {p : Pending.State}
  {log : List Message}

/-- Two allocated cells hold different requests. -/
theorem requestOf_inj (h : p.WellFormed simCount) {a b : ℕ} {ri rj : RequestInfo}
    (ha : p.heap a = some ri) (hb : p.heap b = some rj) (hab : p.requestOf a = p.requestOf b) :
    a = b := by
  obtain ⟨l, hl⟩ := h
  exact hl.requestOf_inj _ _ a (hl.mem_of_heap ha) b (hl.mem_of_heap hb) hab

theorem requestOf_lt (h : p.WellFormed simCount) {a : ℕ} {ri : RequestInfo}
    (ha : p.heap a = some ri) : p.requestOf a < p.issued := by
  obtain ⟨l, hl⟩ := h
  exact hl.requestOf_lt _ a (hl.mem_of_heap ha)

/-- A step that leaves the allocated cells and their numbers alone keeps the record. -/
theorem Recorded.of_heap_eq (h : Recorded simCount version p log) {q : Pending.State}
    (hq : q.WellFormed simCount) (hheap : q.heap = p.heap) (hof : q.requestOf = p.requestOf)
    (hissued : q.issued = p.issued) : Recorded simCount version q log := by
  refine ⟨hq, h.truthful, ?_, ?_, ?_⟩
  · rw [hheap, hof]
    exact h.acked
  · rw [hheap, hof]
    exact h.unanswered
  · rw [hissued]
    exact h.number_lt

/-- A new request is neither acknowledged nor answered. -/
theorem Recorded.addRequestToList (h : Recorded simCount version p log) (serial : ℤ)
    (slotId request : ℕ) {a : ℕ} (ha : p.heap a = none) :
    Recorded simCount version
      (Pending.addRequestToList c mtkCommandStart simCount p serial slotId request a) log := by
  have hnew : ∀ m ∈ log, m.number ≠ p.issued := fun m hm => Nat.ne_of_lt (h.number_lt m hm)
  obtain ⟨l, hl⟩ := h.wellFormed
  refine ⟨⟨_, Pending.addRequestToList_tracks serial slotId request hl ha⟩, h.truthful,
    ?_, ?_, ?_⟩
  · intro b ri hb
    rw [Pending.addRequestToList_requestOf]
    by_cases hba : b = a
    · subst hba
      rw [Function.update_self]
      simp only [Pending.addRequestToList, Function.update_self, Option.some.injEq] at hb
      subst hb
      refine ⟨rfl, ?_⟩
      constructor
      · intro hack
        exact absurd hack Bool.false_ne_true
      · intro hmem
        exact absurd rfl (hnew _ hmem)
    · rw [Function.update_of_ne hba]
      simp only [Pending.addRequestToList, Function.update_of_ne hba] at hb
      exact h.acked b ri hb
  · intro b ri f hb
    rw [Pending.addRequestToList_requestOf]
    by_cases hba : b = a
    · subst hba
      rw [Function.update_self]
      intro hmem
      exact absurd rfl (hnew _ hmem)
    · rw [Function.update_of_ne hba]
      simp only [Pending.addRequestToList, Function.update_of_ne hba] at hb
      exact h.unanswered b ri f hb
  · intro m hm
    exact Nat.lt_succ_of_lt (h.number_lt m hm)

/-- An event that is neither an acknowledgement nor a completion adds a request, or leaves the
allocated cells alone. -/
theorem pending_cases {q : Pending.State} {e : Pending.Event}
    (hack : ∀ t strange, e ≠ .onRequestAck t strange)
    (hcomplete : ∀ t strange, e ≠ .onRequestComplete t strange)
    (hs : Pending.step c mtkCommandStart simCount p e = some q) :
    (q.heap = p.heap ∧ q.requestOf = p.requestOf ∧ q.issued = p.issued) ∨
      ∃ serial slotId request a, p.heap a = none ∧
        q.heap = (Pending.addRequestToList c mtkCommandStart simCount p serial slotId request
          a).heap ∧
        q.requestOf = Function.update p.requestOf a p.issued ∧ q.issued = p.issued + 1 := by
  cases e with
  | request e route cell serial slotId own =>
      simp only [Pending.step] at hs
      split at hs
      · cases cell with
        | none =>
            simp only [Option.ite_none_right_eq_some, Option.some.injEq] at hs
            obtain ⟨-, rfl⟩ := hs
            exact Or.inl ⟨rfl, rfl, rfl⟩
        | some a =>
            simp only [Option.ite_none_right_eq_some] at hs
            obtain ⟨hfresh, hs⟩ := hs
            refine Or.inr ⟨serial, slotId, route.request.code, a, hfresh.1, ?_⟩
            cases own with
            | none =>
                cases Option.some.inj hs
                exact ⟨rfl, rfl, rfl⟩
            | some err =>
                have hsent := Pending.sendErrorResponse_eq hs
                rw [hsent]
                exact ⟨rfl, rfl, rfl⟩
      · cases hs
  | onRequestAck t strange => exact absurd rfl (hack t strange)
  | onRequestComplete t strange => exact absurd rfl (hcomplete t strange)
  | malTokenIssued t =>
      simp only [Pending.step, Option.ite_none_right_eq_some, Option.some.injEq] at hs
      obtain ⟨-, rfl⟩ := hs
      exact Or.inl ⟨rfl, rfl, rfl⟩
  | malTokenFreed t =>
      cases Option.some.inj hs
      exact Or.inl ⟨rfl, rfl, rfl⟩

/-- The vendor acknowledges a pending request. -/
theorem Recorded.markAck (h : Recorded simCount version p log) {a : ℕ} {ri : RequestInfo}
    (ha : p.heap a = some ri) :
    Recorded simCount version (Pending.markAck p a)
      (.acknowledgeRequest (p.requestOf a) :: log) := by
  obtain ⟨l, hl⟩ := h.wellFormed
  refine ⟨⟨l, Pending.markAck_tracks hl a⟩, ⟨fun b => h.unanswered a ri b ha, h.truthful⟩,
    ?_, ?_, ?_⟩
  · intro b rj hb
    change _ ∧ (_ ↔ Message.acknowledgeRequest (p.requestOf b) ∈ _)
    by_cases hba : b = a
    · subst hba
      simp only [Pending.markAck, ha, Option.map_some, Function.update_self,
        Option.some.injEq] at hb
      subst hb
      exact ⟨(h.acked b ri ha).1, by simp⟩
    · simp only [Pending.markAck, Function.update_of_ne hba] at hb
      have hne : p.requestOf b ≠ p.requestOf a := fun heq =>
        hba (requestOf_inj h.wellFormed hb ha heq)
      simpa [hne] using h.acked b rj hb
  · intro b rj f hb
    change Message.response (p.requestOf b) f ∉ _
    have hcell : ∃ rk, p.heap b = some rk := by
      by_cases hba : b = a
      · exact ⟨ri, hba ▸ ha⟩
      · simp only [Pending.markAck, Function.update_of_ne hba] at hb
        exact ⟨rj, hb⟩
    obtain ⟨rk, hrk⟩ := hcell
    simpa using h.unanswered b rk f hrk
  · intro m hm
    rcases List.mem_cons.1 hm with rfl | hm
    · exact requestOf_lt h.wellFormed ha
    · exact h.number_lt m hm

/-- The cells that are left after a completion, with the contents they had but for the link. -/
theorem finish_heap (k : Fin 4) (t : ℕ) (place : Place ℕ) {b : ℕ} {rj : RequestInfo}
    (hb : (Pending.finish c (Pending.unlink p k t place) t).heap b = some rj) :
    b ≠ t ∧ ∃ rk link, p.heap b = some rk ∧ rj = { rk with pNext := link } := by
  have hbt : b ≠ t := by
    rintro rfl
    simp [Pending.finish] at hb
  refine ⟨hbt, ?_⟩
  simp only [Pending.finish, Function.update_of_ne hbt] at hb
  cases place with
  | head => exact ⟨rj, rj.pNext, hb, rfl⟩
  | link a =>
      by_cases hba : b = a
      · subst hba
        simp only [Pending.unlink, Function.update_self, Option.map_eq_some_iff] at hb
        obtain ⟨rk, hrk, rfl⟩ := hb
        exact ⟨rk, p.next t, hrk, rfl⟩
      · simp only [Pending.unlink, Function.update_of_ne hba] at hb
        exact ⟨rj, rj.pNext, hb, rfl⟩

/-- A completion of a pending request, with or without a call of its response function. -/
theorem Recorded.finish (h : Recorded simCount version p log) {q : Pending.State} {k : Fin 4}
    {a : ℕ} {place : Place ℕ} {ri : RequestInfo} (ha : p.heap a = some ri)
    (hq : q = Pending.finish c (Pending.unlink p k a place) a) (hwf : q.WellFormed simCount)
    {log' : List Message}
    (hlog : log' = log ∨
      log' = .response (p.requestOf a) (ackExp version ri) :: log) :
    Recorded simCount version q log' := by
  obtain ⟨hissued, hof, -, -, -⟩ := Pending.unlink_record (s := p) k a place
  have hof' : q.requestOf = p.requestOf := by
    rw [hq]
    exact hof
  have hissued' : q.issued = p.issued := by
    rw [hq]
    exact hissued
  have hrest : ∀ b rj, q.heap b = some rj → p.requestOf b ≠ p.requestOf a ∧
      ∃ rk, p.heap b = some rk ∧ rk.cancelled = rj.cancelled ∧
        rk.wasAckSent = rj.wasAckSent := by
    intro b rj hb
    rw [hq] at hb
    obtain ⟨hba, rk, link, hrk, rfl⟩ := finish_heap k a place hb
    exact ⟨fun heq => hba (requestOf_inj h.wellFormed hrk ha heq), rk, hrk, rfl, rfl⟩
  refine ⟨hwf, ?_, ?_, ?_, ?_⟩
  · rcases hlog with rfl | rfl
    · exact h.truthful
    · refine ⟨?_, fun b => h.unanswered a ri b ha, h.truthful⟩
      rw [← (h.acked a ri ha).2]
      simp [ackExp]
  · intro b rj hb
    obtain ⟨hne, rk, hrk, hc, hw⟩ := hrest b rj hb
    rw [hof', ← hc, ← hw]
    rcases hlog with rfl | rfl
    · exact h.acked b rk hrk
    · simpa using h.acked b rk hrk
  · intro b rj f hb
    obtain ⟨hne, rk, hrk, -, -⟩ := hrest b rj hb
    rw [hof']
    rcases hlog with rfl | rfl
    · exact h.unanswered b rk f hrk
    · simpa [hne] using h.unanswered b rk f hrk
  · intro m hm
    rw [hissued']
    rcases hlog with rfl | rfl
    · exact h.number_lt m hm
    · rcases List.mem_cons.1 hm with rfl | hm
      · exact requestOf_lt h.wellFormed ha
      · exact h.number_lt m hm

/-! ## One step and the log -/

/-- A token completes nothing, and nothing changes, or it completes an allocated request. -/
theorem completed_cases {l : Fin 4 → List ℕ} (h : Pending.Tracks simCount p l) (t : Option ℕ)
    (strange : ℕ) :
    (completed simCount p t strange = none ∧
        Pending.onRequestComplete c simCount p t strange = p) ∨
      ∃ k a place ri, p.heap a = some ri ∧ completed simCount p t strange = some (a, ri) ∧
        Pending.onRequestComplete c simCount p t strange =
          Pending.finish c (Pending.unlink p k a place) a := by
  unfold completed Pending.onRequestComplete
  by_cases hmal : t.any p.malInflight
  · rw [if_pos hmal, if_pos hmal]
    exact Or.inl ⟨rfl, rfl⟩
  · rw [if_neg hmal, if_neg hmal]
    rcases Pending.check_cases h t strange false with hcheck | ⟨k, a, place, rfl, hplace, hcheck⟩
    · rw [hcheck]
      cases t <;> exact Or.inl ⟨rfl, rfl⟩
    · have hmem : a ∈ l k := (predecessor_isSome _).1 (by rw [hplace]; rfl)
      obtain ⟨ri, hri⟩ := h.heap_of_mem hmem
      rw [hcheck]
      exact Or.inr ⟨k, a, place, ri, hri, by simp [hri], rfl⟩

theorem onRequestComplete_wellFormed (h : p.WellFormed simCount) (t : Option ℕ) (strange : ℕ) :
    (Pending.onRequestComplete c simCount p t strange).WellFormed simCount := by
  have hs : Pending.step c 0 simCount p (.onRequestComplete t strange) =
      some (Pending.onRequestComplete c simCount p t strange) := rfl
  exact Pending.step_wellFormed h hs

variable {s s' : State}

/-- A flagged message concerns the wake lock alone. -/
theorem sendFlagged_frame {created : Option ℕ} {sent : Bool}
    (hs : sendFlagged version s created sent = some s') :
    s'.pending = s.pending ∧ s'.log = s.log := by
  unfold sendFlagged at hs
  rw [Option.map_eq_some_iff] at hs
  obtain ⟨w, -, rfl⟩ := hs
  exact ⟨rfl, rfl⟩

theorem sendUnsolResponse_frame {row : Radio.Unsol.UnsolResponseInfo} {created : Option ℕ}
    {sent : Bool} (hs : sendUnsolResponse version s row created sent = some s') :
    s'.pending = s.pending ∧ s'.log = s.log := by
  unfold sendUnsolResponse at hs
  split at hs
  · exact nomatch hs
  · split at hs
    · split at hs
      · exact sendFlagged_frame hs
      · simp only [Option.bind_eq_bind, Option.bind_eq_some_iff, Option.some.injEq] at hs
        obtain ⟨w, -, w', -, rfl⟩ := hs
        exact ⟨rfl, rfl⟩
    · cases Option.some.inj hs
      exact ⟨rfl, rfl⟩

theorem responseAcknowledgement_frame {awaited : Bool}
    (hs : responseAcknowledgement version s awaited = some s') :
    s'.pending = s.pending ∧ s'.log = s.log := by
  unfold responseAcknowledgement at hs
  split at hs
  · exact nomatch hs
  · rw [Option.map_eq_some_iff] at hs
    obtain ⟨w, -, rfl⟩ := hs
    exact ⟨rfl, rfl⟩

theorem wakeTimeout_frame {a : ℕ} (hs : wakeTimeout version s a = some s') :
    s'.pending = s.pending ∧ s'.log = s.log := by
  unfold wakeTimeout at hs
  rw [Option.map_eq_some_iff] at hs
  obtain ⟨w, -, rfl⟩ := hs
  exact ⟨rfl, rfl⟩

/-- What a completion does to the pending requests and to the log. -/
theorem onRequestComplete_cases {t : Option ℕ} {strange : ℕ} {created : Option ℕ} {sent : Bool}
    (hs : onRequestComplete c simCount version s t strange created sent = some s') :
    s'.pending = Pending.onRequestComplete c simCount s.pending t strange ∧
      (s'.log = s.log ∨ ∃ a ri, completed simCount s.pending t strange = some (a, ri) ∧
        s'.log = .response (s.pending.requestOf a) (ackExp version ri) :: s.log) := by
  unfold onRequestComplete at hs
  split at hs
  · cases Option.some.inj hs
    exact ⟨rfl, Or.inl rfl⟩
  · rename_i a ri hcompleted
    split at hs
    · cases Option.some.inj hs
      exact ⟨rfl, Or.inl rfl⟩
    · dsimp only at hs
      -- whether or not the message is flagged, the log is the same
      have hboth : s'.pending = Pending.onRequestComplete c simCount s.pending t strange ∧
          s'.log = if ((c.at ri.pCI).responseFunction).isSome then
            .response (s.pending.requestOf a) (ackExp version ri) :: s.log else s.log := by
        split at hs
        · exact nomatch hs
        · split at hs
          · rw [Option.map_eq_some_iff] at hs
            obtain ⟨r, -, rfl⟩ := hs
            exact ⟨rfl, rfl⟩
          · cases Option.some.inj hs
            exact ⟨rfl, rfl⟩
      refine ⟨hboth.1, ?_⟩
      rw [hboth.2]
      split
      · exact Or.inr ⟨a, ri, hcompleted, rfl⟩
      · exact Or.inl rfl

theorem step_pending {e : Pending.Event}
    (hs : step c mtkCommandStart simCount version s (.pending e) = some s') :
    (∀ t strange, e ≠ .onRequestAck t strange) ∧
      (∀ t strange, e ≠ .onRequestComplete t strange) ∧
      ∃ q, Pending.step c mtkCommandStart simCount s.pending e = some q ∧
        s' = { s with pending := q } := by
  cases e <;> simp only [step, Option.map_eq_some_iff, reduceCtorEq] at hs <;>
    obtain ⟨q, hq, rfl⟩ := hs <;>
    exact ⟨by simp, by simp, q, hq, rfl⟩

/-- **One step.** -/
theorem step_recorded (h : Recorded simCount version s.pending s.log) {e : Event}
    (hs : step c mtkCommandStart simCount version s e = some s') :
    Recorded simCount version s'.pending s'.log := by
  cases e with
  | pending e =>
      obtain ⟨hack, hcomplete, q, hq, rfl⟩ := step_pending hs
      have hwf : q.WellFormed simCount := Pending.step_wellFormed h.wellFormed hq
      rcases pending_cases hack hcomplete hq with ⟨hheap, hof, hissued⟩ |
        ⟨serial, slotId, request, a, ha, hheap, hof, hissued⟩
      · exact h.of_heap_eq hwf hheap hof hissued
      · exact (h.addRequestToList serial slotId request ha).of_heap_eq hwf hheap hof hissued
  | onRequestAck t strange =>
      cases Option.some.inj hs
      obtain ⟨l, hl⟩ := h.wellFormed
      rcases Pending.check_cases hl t strange true with hcheck | ⟨k, a, place, rfl, hplace, hcheck⟩
      · have hsame : onRequestAck simCount s t strange = s := by
          unfold onRequestAck
          rw [hcheck]
          cases t <;> rfl
        rw [hsame]
        exact h
      · have hmem : a ∈ l k := (predecessor_isSome _).1 (by rw [hplace]; rfl)
        obtain ⟨ri, hri⟩ := hl.heap_of_mem hmem
        have hmark := h.markAck hri
        simpa [onRequestAck, Pending.onRequestAck, hcheck, hri, (h.acked a ri hri).1] using hmark
  | onRequestComplete t strange created sent =>
      obtain ⟨hpending, hlog⟩ := onRequestComplete_cases hs
      obtain ⟨l, hl⟩ := h.wellFormed
      have hwf : s'.pending.WellFormed simCount := by
        rw [hpending]
        exact onRequestComplete_wellFormed h.wellFormed t strange
      rcases completed_cases (c := c) hl t strange with ⟨hnone, hsame⟩ |
        ⟨k, a, place, ri, ha, hsome, hfinish⟩
      · rw [hnone] at hlog
        have hlog' : s'.log = s.log := by simpa using hlog
        rw [hlog', hpending, hsame]
        exact h
      · refine h.finish ha (hpending.trans hfinish) hwf ?_
        rcases hlog with hlog | ⟨b, rj, hcompleted, hlog⟩
        · exact Or.inl hlog
        · cases Option.some.inj (hsome.symm.trans hcompleted)
          exact Or.inr hlog
  | sendUnsolResponse row created sent =>
      obtain ⟨hpending, hlog⟩ := sendUnsolResponse_frame hs
      rw [hpending, hlog]
      exact h
  | responseAcknowledgement awaited =>
      obtain ⟨hpending, hlog⟩ := responseAcknowledgement_frame hs
      rw [hpending, hlog]
      exact h
  | wakeTimeout a =>
      obtain ⟨hpending, hlog⟩ := wakeTimeout_frame hs
      rw [hpending, hlog]
      exact h

end Log

/-- **Acknowledged first, flagged last.**  For every table of requests, every number of SIMs and
every version of the vendor, in every run of requests, acknowledgements, completions,
indications, releases and timeouts: a response is flagged exactly when the version is 13 or later
and the client was told before that its request is acknowledged; a request is not acknowledged
after its response, and not answered twice by its completion. -/
theorem acknowledgements_truthful (c : Commands) (mtkCommandStart simCount : ℕ) (version : ℤ)
    (es : List Event) :
    Always (step c mtkCommandStart simCount version) (fun s => Truthful version s.log)
      State.init es :=
  (always_of_step (fun _ _ _ h hs => step_recorded h hs) (recorded_init simCount version) es).mono
    fun _ h => h.truthful

/-! ## The count -/

/-- The wake lock is in order, and its count is that of the messages that are awaited. -/
def State.Counted (s : State) : Prop := s.wakeLock.Balanced ∧ s.wakeLock.count = s.expected

section Count

variable {c : Commands} {mtkCommandStart simCount : ℕ} {version : ℤ} {s s' : State}

theorem State.Counted.counts (h : s.Counted) : s.Counts := by
  refine ⟨h.2, ?_⟩
  rw [h.1.held, h.2]
  omega

/-- What counts is the lock and the number of the awaited messages. -/
theorem counted_congr (hlock : s'.wakeLock = s.wakeLock) (hexpected : s'.expected = s.expected) :
    s'.Counted ↔ s.Counted := by
  unfold State.Counted
  rw [hlock, hexpected]

theorem counts_congr (hlock : s'.wakeLock = s.wakeLock) (hexpected : s'.expected = s.expected) :
    s'.Counts ↔ s.Counts := by
  unfold State.Counts
  rw [hlock, hexpected]

theorem markLast_count {w w' : WakeLock.State} (h : WakeLock.markLast w = some w') :
    w'.count = w.count := by
  unfold WakeLock.markLast at h
  split at h
  · cases Option.some.inj h
    rfl
  · rw [Option.map_eq_some_iff] at h
    obtain ⟨r, -, rfl⟩ := h
    rfl

/-- A grab whose timeout is created adds one to the count. -/
theorem grab_count (hv : 13 ≤ version) {w w' : WakeLock.State} {q : ℕ}
    (h : WakeLock.grabPartialWakeLock version w (some q) = some w') :
    w'.count = w.count + 1 := by
  simp only [WakeLock.grabPartialWakeLock, ge_iff_le, hv, if_true, Option.bind_eq_bind,
    Option.bind_eq_some_iff, Option.some.injEq, Word.checkedInt32_eq_some] at h
  obtain ⟨count, ⟨rfl, -, -⟩, t, ht, rfl⟩ := h
  exact markLast_count ht

/-- A release takes one from the count, down to zero. -/
theorem release_count (hv : 13 ≤ version) {w w' : WakeLock.State}
    (h : WakeLock.releaseWakeLock version w = some w') :
    w'.count = if w.count > 1 then w.count - 1 else 0 := by
  simp only [WakeLock.releaseWakeLock, ge_iff_le, hv, if_true] at h
  split at h
  · rename_i hmore
    cases Option.some.inj h
    rw [if_pos hmore]
  · rename_i hlast
    rw [if_neg hlast]
    exact markLast_count h

/-- A flagged message, with its timeout and without. -/
theorem sendFlagged_cases {created : Option ℕ} {sent : Bool}
    (hs : sendFlagged version s created sent = some s') :
    ∃ w, WakeLock.step version s.wakeLock (.grab created) = some w ∧
      s' = { s with wakeLock := w, expected := if sent then s.expected + 1 else s.expected } := by
  unfold sendFlagged at hs
  rw [Option.map_eq_some_iff] at hs
  obtain ⟨w, hw, rfl⟩ := hs
  exact ⟨w, hw, rfl⟩

/-- The grab of a step, without the test of the address. -/
theorem grab_of_step {w w' : WakeLock.State} {created : Option ℕ}
    (h : WakeLock.step version w (.grab created) = some w') :
    WakeLock.grabPartialWakeLock version w created = some w' := by
  simp only [WakeLock.step, Option.ite_none_right_eq_some] at h
  exact h.2

theorem sendFlagged_counted (hv : 13 ≤ version) (h : s.Counted) {created : Option ℕ}
    {sent : Bool} (hm : Matched s created sent)
    (hs : sendFlagged version s created sent = some s') : s'.Counted := by
  obtain ⟨w, hw, rfl⟩ := sendFlagged_cases hs
  obtain ⟨hbalanced, hcount⟩ := h
  obtain ⟨hsent, hidle⟩ := hm
  cases created with
  | none =>
      -- the lock is not held, so there is nothing to lose
      have hzero : s.expected = 0 := hidle rfl
      have hheld : s.wakeLock.held = false := by
        rw [Bool.eq_false_iff]
        intro hheld
        have hpos := hbalanced.held.1 hheld
        omega
      have hgrab := grab_of_step hw
      rw [WakeLock.grabPartialWakeLock_none hv, ← hheld] at hgrab
      cases Option.some.inj hgrab
      cases sent with
      | true => exact nomatch hsent
      | false => exact ⟨hbalanced, hcount⟩
  | some q =>
      cases sent with
      | false => exact nomatch hsent
      | true =>
          refine ⟨WakeLock.step_balanced hv hbalanced rfl hw, ?_⟩
          have hgrab := grab_count hv (grab_of_step hw)
          simp only [if_true]
          omega

theorem sendFlagged_not_counts (hv : 13 ≤ version) (h : s.Counted) {created : Option ℕ}
    {sent : Bool} (hm : ¬ Matched s created sent)
    (hs : sendFlagged version s created sent = some s') : ¬ s'.Counts := by
  obtain ⟨w, hw, rfl⟩ := sendFlagged_cases hs
  obtain ⟨-, hcount⟩ := h
  rintro ⟨hcount', hheld'⟩
  cases created with
  | none =>
      have hgrab := grab_of_step hw
      rw [WakeLock.grabPartialWakeLock_none hv] at hgrab
      cases Option.some.inj hgrab
      cases sent with
      | true =>
          simp only [if_true] at hcount'
          omega
      | false =>
          -- the failing grab has given the lock away
          have hpos : ¬ 0 < s.expected := by simpa using hheld'
          exact hm ⟨rfl, fun _ => by omega⟩
  | some q =>
      cases sent with
      | true => exact hm ⟨rfl, by simp⟩
      | false =>
          have hgrab := grab_count hv (grab_of_step hw)
          simp only [Bool.false_eq_true, if_false] at hcount'
          omega

/-- A completion grabs the lock for its message, or leaves it alone. -/
theorem onRequestComplete_wakeLock {t : Option ℕ} {strange : ℕ} {created : Option ℕ}
    {sent : Bool} (hs : onRequestComplete c simCount version s t strange created sent = some s') :
    ∃ r, s'.wakeLock = r.wakeLock ∧ s'.expected = r.expected ∧
      if grabs simCount version s.pending t strange then
        sendFlagged version s created sent = some r
      else r = s := by
  unfold onRequestComplete at hs
  unfold grabs
  split at hs
  · rename_i hnone
    cases Option.some.inj hs
    exact ⟨s, rfl, rfl, by simp [hnone]⟩
  · rename_i a ri hcompleted
    rw [hcompleted, Option.any_some]
    dsimp only at hs ⊢
    split at hs
    · rename_i hquiet
      cases Option.some.inj hs
      exact ⟨s, rfl, rfl, by simp [hquiet]⟩
    · rename_i hanswers
      split at hs
      · exact nomatch hs
      · split at hs
        · rename_i hflagged
          rw [Option.map_eq_some_iff] at hs
          obtain ⟨r, hr, rfl⟩ := hs
          refine ⟨r, rfl, rfl, ?_⟩
          rw [if_pos]
          · exact hr
          · rw [Bool.eq_false_iff.2 hanswers, hflagged]
            rfl
        · rename_i hplain
          cases Option.some.inj hs
          exact ⟨s, rfl, rfl, by simp [hplain]⟩

/-- From version 13 on, an indication grabs the lock when its row says so. -/
theorem sendUnsolResponse_wakeLock (hv : 13 ≤ version) {row : Radio.Unsol.UnsolResponseInfo}
    {created : Option ℕ} {sent : Bool}
    (hs : sendUnsolResponse version s row created sent = some s') :
    if row.wakeType = .wakePartial then sendFlagged version s created sent = some s'
    else s' = s := by
  unfold sendUnsolResponse at hs
  split at hs
  · exact nomatch hs
  · simp only [Radio.Unsol.deliver, hv, decide_eq_true_eq] at hs
    split at hs
    · rename_i hwake
      rwa [if_pos hwake]
    · rename_i hwake
      rw [if_neg hwake]
      exact (Option.some.inj hs).symm

theorem responseAcknowledgement_cases {awaited : Bool}
    (hs : responseAcknowledgement version s awaited = some s') :
    (awaited = true → 0 < s.expected) ∧
      ∃ w, WakeLock.releaseWakeLock version s.wakeLock = some w ∧
        s' = { s with
          wakeLock := w
          expected := if awaited then s.expected - 1 else s.expected } := by
  unfold responseAcknowledgement at hs
  split at hs
  · exact nomatch hs
  · rename_i hawaited
    rw [Option.map_eq_some_iff] at hs
    obtain ⟨w, hw, rfl⟩ := hs
    refine ⟨fun htrue => ?_, w, hw, rfl⟩
    simp only [htrue, Bool.true_and, beq_iff_eq] at hawaited
    omega

/-- A step that does not upset the count keeps it. -/
theorem step_counted (hv : 13 ≤ version) (h : s.Counted) {e : Event}
    (he : Clean simCount version s e)
    (hs : step c mtkCommandStart simCount version s e = some s') : s'.Counted := by
  cases e with
  | pending e =>
      obtain ⟨-, -, q, -, rfl⟩ := step_pending hs
      exact h
  | onRequestAck t strange =>
      cases Option.some.inj hs
      refine (counted_congr ?_ ?_).2 h <;>
        unfold onRequestAck <;> dsimp only <;> split <;> rfl
  | onRequestComplete t strange created sent =>
      obtain ⟨r, hlock, hexpected, hr⟩ := onRequestComplete_wakeLock hs
      rw [counted_congr hlock hexpected]
      split at hr
      · rename_i hgrabs
        exact sendFlagged_counted hv h (he hgrabs) hr
      · rw [hr]
        exact h
  | sendUnsolResponse row created sent =>
      have hr := sendUnsolResponse_wakeLock hv hs
      split at hr
      · rename_i hwake
        exact sendFlagged_counted hv h (he hwake) hr
      · rw [hr]
        exact h
  | responseAcknowledgement awaited =>
      obtain ⟨hpos, w, hw, rfl⟩ := responseAcknowledgement_cases hs
      refine ⟨WakeLock.release_balanced hv h.1 hw, ?_⟩
      have hcount := release_count hv hw
      have hbefore := h.2
      cases awaited with
      | true =>
          have hpos' := hpos rfl
          simp only [if_true]
          split at hcount <;> omega
      | false =>
          have hidle : s.expected = 0 := he rfl
          simp only [Bool.false_eq_true, if_false]
          split at hcount <;> omega
  | wakeTimeout q =>
      change wakeTimeout version s q = some s' at hs
      unfold wakeTimeout at hs
      rw [Option.map_eq_some_iff] at hs
      obtain ⟨w, hw, rfl⟩ := hs
      refine ⟨WakeLock.expire_balanced hv h.1 hw, ?_⟩
      obtain ⟨r, hr, rfl⟩ := WakeLock.userTimerCallback_cases hv hw
      -- a timeout that was cancelled changes nothing, the pending one takes all grabs back
      cases hcancelled : r.cancelled with
      | true => simpa [hr, hcancelled] using h.2
      | false => simp [hr, hcancelled]

/-- A step that upsets the count is seen at once. -/
theorem step_not_counts (hv : 13 ≤ version) (h : s.Counted) {e : Event}
    (he : ¬ Clean simCount version s e)
    (hs : step c mtkCommandStart simCount version s e = some s') : ¬ s'.Counts := by
  cases e with
  | pending e => exact absurd trivial he
  | onRequestAck t strange => exact absurd trivial he
  | onRequestComplete t strange created sent =>
      obtain ⟨hgrabs, hm⟩ := Classical.not_imp.1 he
      obtain ⟨r, hlock, hexpected, hr⟩ := onRequestComplete_wakeLock hs
      rw [if_pos hgrabs] at hr
      rw [counts_congr hlock hexpected]
      exact sendFlagged_not_counts hv h hm hr
  | sendUnsolResponse row created sent =>
      obtain ⟨hwake, hm⟩ := Classical.not_imp.1 he
      have hr := sendUnsolResponse_wakeLock hv hs
      rw [if_pos hwake] at hr
      exact sendFlagged_not_counts hv h hm hr
  | responseAcknowledgement awaited =>
      obtain ⟨hawaited, hexpected⟩ := Classical.not_imp.1 he
      obtain ⟨-, w, hw, rfl⟩ := responseAcknowledgement_cases hs
      rintro ⟨hcount', -⟩
      have hcount := release_count hv hw
      have hbefore := h.2
      subst hawaited
      simp only [Bool.false_eq_true, if_false] at hcount'
      split at hcount <;> omega
  | wakeTimeout q => exact absurd trivial he

end Count

/-- A request that is acknowledged, answered with a flag, and acknowledged by the client. -/
def dialAnswered : List Event :=
  [.pending (.request .dial (.forwarding .dial [.noMemory]) (some 1) 7 0 none),
    .onRequestAck (some 1) 0,
    .onRequestComplete (some 1) 0 (some 2) true, .responseAcknowledgement true, .wakeTimeout 2]

end Ril.Acknowledgement
