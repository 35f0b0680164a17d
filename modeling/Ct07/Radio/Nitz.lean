/-
# The cached network time (`ril.cpp`)

`send_unsolResponse` keeps a copy of a NITZ indication that no client was there for, and
`onNewCommandConnect` delivers it when a client registers.  There is one copy for all slots,
and an indication can come between a registration and its resend.

Main result: `nitz_correct_iff`.
-/
import Ct07.Lib.Run
import Mathlib.Data.List.Nodup
import Mathlib.Data.Int.Notation

open PartialStep

namespace Radio.Nitz

/-! ## State -/

/-- An indication of a slot.  `seq` tells the indications apart; the data is empty when the
vendor passes none. -/
structure NitzTime where
  seq : ℕ
  slot : ℕ
  data : List UInt8
  deriving DecidableEq

/-- `mRadioIndication` of a slot: not set, or set to a client that lives or has died. -/
inductive Client where
  | absent
  | alive
  | dead
  deriving DecidableEq

/-- What happened to the indications that carry a time. -/
inductive Entry where
  | received (n : NitzTime)
  | delivered (slot : ℕ) (n : NitzTime)
  | resent (slot : ℕ) (n : NitzTime)
  deriving DecidableEq

/-- `count` and `log` are records beside the code's data. -/
structure State where
  /-- `s_lastNITZTimeData` -/
  lastNITZTimeData : Option NitzTime
  client : ℕ → Client
  /-- the registrations of each slot whose resend has not come yet -/
  due : ℕ → ℕ
  /-- the indications so far -/
  count : ℕ
  /-- the newest entry first -/
  log : List Entry

def State.init : State := ⟨none, fun _ => .absent, fun _ => 0, 0, []⟩

/-! ## Operations -/

/-- What a call of `nitzTimeReceivedInd` answers, whether the client got the time, and what
becomes of the client. -/
structure Answer where
  ret : ℤ
  delivered : Bool
  client : Client

/-- `radio::nitzTimeReceivedInd`.  A call that fails is answered with zero as well, and
`checkReturnStatus` takes the client back. -/
def nitzTimeReceivedInd (client : Client) (data : List UInt8) : Answer :=
  match client with
  | .absent => ⟨-1, false, .absent⟩
  | .alive => ⟨0, decide (data ≠ []), .alive⟩
  | .dead => ⟨0, false, if data = [] then .dead else .absent⟩

/-- `send_unsolResponse` for `RIL_UNSOL_NITZ_TIME_RECEIVED`; `allocated` says whether the
memory for the copy was to be had. -/
def sendUnsolResponse (s : State) (slot : ℕ) (data : List UInt8) (allocated : Bool) : State :=
  let n : NitzTime := ⟨s.count, slot, data⟩
  let answer := nitzTimeReceivedInd (s.client slot) data
  { s with
    lastNITZTimeData :=
      if answer.ret ≠ 0 then (if allocated then some n else none) else s.lastNITZTimeData
    client := Function.update s.client slot answer.client
    count := s.count + 1
    log := (if answer.delivered then [.delivered slot n] else []) ++
      ((if data ≠ [] then [.received n] else []) ++ s.log) }

/-- `resendLastNITZTimeData` -/
def resendLastNITZTimeData (s : State) (slot : ℕ) : State :=
  match s.lastNITZTimeData with
  | none => s
  | some n =>
      let answer := nitzTimeReceivedInd (s.client slot) n.data
      { s with
        lastNITZTimeData := if answer.ret = 0 then none else some n
        client := Function.update s.client slot answer.client
        log := (if answer.delivered then [.resent slot n] else []) ++ s.log }

/-- `setResponseFunctions`, up to the call of `onNewCommandConnect`. -/
def setResponseFunctions (s : State) (slot : ℕ) (client : Client) : State :=
  { s with
    client := Function.update s.client slot client
    due := Function.update s.due slot (s.due slot + 1) }

/-- What can happen next.  A client that takes its functions back registers a null pointer, and
`onNewCommandConnect` follows all the same; a client that has died stays registered until a call
fails, of this indication or of another. -/
inductive Event where
  | connect (slot : ℕ)
  | disconnect (slot : ℕ)
  | die (slot : ℕ)
  | otherCall (slot : ℕ)
  | indication (slot : ℕ) (data : List UInt8) (allocated : Bool)
  | resend (slot : ℕ)
  deriving DecidableEq

def step (s : State) : Event → Option State
  | .connect slot => some (setResponseFunctions s slot .alive)
  | .disconnect slot => some (setResponseFunctions s slot .absent)
  | .die slot =>
      if s.client slot = .alive then some { s with client := Function.update s.client slot .dead }
      else none
  | .otherCall slot =>
      if s.client slot = .dead then some { s with client := Function.update s.client slot .absent }
      else some s
  | .indication slot data allocated => some (sendUnsolResponse s slot data allocated)
  | .resend slot =>
      if s.due slot = 0 then none
      else
        some (resendLastNITZTimeData
          { s with due := Function.update s.due slot (s.due slot - 1) } slot)

/-! ## The property, and when it holds -/

/-- What was received on a slot, the newest first. -/
def receivedOn (slot : ℕ) : List Entry → List NitzTime
  | [] => []
  | .received n :: log => if n.slot = slot then n :: receivedOn slot log else receivedOn slot log
  | .delivered _ _ :: log => receivedOn slot log
  | .resent _ _ :: log => receivedOn slot log

/-- What the clients of a slot got, the newest first. -/
def deliveredOn (slot : ℕ) : List Entry → List NitzTime
  | [] => []
  | .received _ :: log => deliveredOn slot log
  | .delivered t n :: log => if t = slot then n :: deliveredOn slot log else deliveredOn slot log
  | .resent t n :: log => if t = slot then n :: deliveredOn slot log else deliveredOn slot log

/-- What is resent on a slot is the latest that was received on it and not delivered, and newer
than all that was. -/
structure Right (slot : ℕ) (n : NitzTime) (before : List Entry) : Prop where
  received : n ∈ receivedOn slot before
  undelivered : n ∉ deliveredOn slot before
  latest : ∀ m ∈ receivedOn slot before, m ∉ deliveredOn slot before → m.seq ≤ n.seq
  newer : ∀ m ∈ deliveredOn slot before, m.seq < n.seq

/-- Every resend was right when it was made. -/
def ResendsRight : List Entry → Prop
  | [] => True
  | .received _ :: log => ResendsRight log
  | .delivered _ _ :: log => ResendsRight log
  | .resent slot n :: log => Right slot n log ∧ ResendsRight log

structure State.Correct (s : State) : Prop where
  resends : ResendsRight s.log
  once : ∀ slot, (deliveredOn slot s.log).Nodup

/-- When a resend finds a client, the time that is cached, if any, is of the slot of the client,
and no other came on that slot since. -/
def Event.Fresh (s : State) : Event → Prop
  | .resend slot => s.client slot = .alive → ∀ n ∈ s.lastNITZTimeData, n.data ≠ [] →
      n.slot = slot ∧ ∀ m ∈ receivedOn slot s.log, m.seq ≤ n.seq
  | _ => True

instance (s : State) (e : Event) : Decidable (e.Fresh s) := by
  unfold Event.Fresh
  cases e <;> infer_instance

/-! ## Invariant -/

/-- What the cached time and the records have to do with each other. -/
structure Kept (cache : Option NitzTime) (count : ℕ) (log : List Entry) : Prop where
  counted : ∀ slot, ∀ n ∈ receivedOn slot log, n.seq < count
  sorted : ∀ slot, (receivedOn slot log).Pairwise fun m n => n.seq < m.seq
  delivered : ∀ slot, ∀ n ∈ deliveredOn slot log, n ∈ receivedOn slot log
  cached : ∀ n ∈ cache, n.data ≠ [] → n ∈ receivedOn n.slot log ∧ n ∉ deliveredOn n.slot log
  resends : ResendsRight log
  once : ∀ slot, (deliveredOn slot log).Nodup

/-- What is received on a slot is of that slot. -/
theorem slot_of_mem {slot : ℕ} {n : NitzTime} {log : List Entry} (h : n ∈ receivedOn slot log) :
    n.slot = slot := by
  induction log with
  | nil => simp [receivedOn] at h
  | cons e log ih =>
      cases e with
      | received m =>
          rw [receivedOn] at h
          split at h
          · rename_i hm
            rcases List.mem_cons.1 h with rfl | h
            · exact hm
            · exact ih h
          · exact ih h
      | delivered t m => exact ih h
      | resent t m => exact ih h

section Steps

variable {cache : Option NitzTime} {count : ℕ} {log : List Entry}

/-- Two times of a slot with the same number are the same. -/
theorem Kept.eq_of_seq (h : Kept cache count log) {slot : ℕ} {m n : NitzTime}
    (hm : m ∈ receivedOn slot log) (hn : n ∈ receivedOn slot log) (hseq : m.seq = n.seq) :
    m = n := by
  have hnodup : ((receivedOn slot log).map NitzTime.seq).Nodup :=
    List.pairwise_map.2 ((h.sorted slot).imp fun hlt => Nat.ne_of_gt hlt)
  exact List.inj_on_of_nodup_map hnodup hm hn hseq

theorem Kept.clear (h : Kept cache count log) : Kept none count log :=
  ⟨h.counted, h.sorted, h.delivered, by simp, h.resends, h.once⟩

theorem Kept.store (h : Kept cache count log) {n : NitzTime}
    (hn : n.data ≠ [] → n ∈ receivedOn n.slot log ∧ n ∉ deliveredOn n.slot log) :
    Kept (some n) count log := by
  refine ⟨h.counted, h.sorted, h.delivered, fun m hm => ?_, h.resends, h.once⟩
  cases Option.some.inj hm
  exact hn

/-- An indication without a time. -/
theorem Kept.skip (h : Kept cache count log) : Kept cache (count + 1) log :=
  ⟨fun slot n hn => Nat.lt_succ_of_lt (h.counted slot n hn), h.sorted, h.delivered, h.cached,
    h.resends, h.once⟩

/-- **A time is received.** -/
theorem Kept.receive (h : Kept cache count log) (slot : ℕ) (data : List UInt8) :
    Kept cache (count + 1) (.received ⟨count, slot, data⟩ :: log) := by
  have hmem : ∀ t, ∀ n ∈ receivedOn t (.received ⟨count, slot, data⟩ :: log),
      n = ⟨count, slot, data⟩ ∧ slot = t ∨ n ∈ receivedOn t log := by
    intro t n hn
    rw [receivedOn] at hn
    split at hn
    · rename_i ht
      exact (List.mem_cons.1 hn).imp (fun hn => ⟨hn, ht⟩) id
    · exact .inr hn
  have hsub : ∀ t, ∀ n ∈ receivedOn t log,
      n ∈ receivedOn t (.received ⟨count, slot, data⟩ :: log) := by
    intro t n hn
    rw [receivedOn]
    split
    · exact List.mem_cons_of_mem _ hn
    · exact hn
  refine ⟨?_, ?_, ?_, ?_, h.resends, h.once⟩
  · intro t n hn
    rcases hmem t n hn with ⟨rfl, -⟩ | hn
    · exact Nat.lt_succ_self count
    · exact Nat.lt_succ_of_lt (h.counted t n hn)
  · intro t
    rw [receivedOn]
    split
    · exact List.pairwise_cons.2 ⟨fun n hn => h.counted t n hn, h.sorted t⟩
    · exact h.sorted t
  · intro t n hn
    exact hsub t n (h.delivered t n hn)
  · intro n hn hdata
    obtain ⟨hrec, hundel⟩ := h.cached n hn hdata
    exact ⟨hsub _ n hrec, hundel⟩

/-- The new time of an indication is not delivered yet. -/
theorem Kept.not_delivered (h : Kept cache count log) (slot : ℕ) (n : NitzTime)
    (hn : n.seq = count) : n ∉ deliveredOn slot log := by
  intro hmem
  have := h.counted slot n (h.delivered slot n hmem)
  omega

/-- **A time is delivered that is not cached.** -/
theorem Kept.deliver (h : Kept cache count log) {slot : ℕ} {n : NitzTime}
    (hrec : n ∈ receivedOn slot log) (hnot : n ∉ deliveredOn slot log) (hcache : n ∉ cache) :
    Kept cache count (.delivered slot n :: log) := by
  refine ⟨h.counted, h.sorted, ?_, ?_, h.resends, ?_⟩
  · intro t m hm
    rw [deliveredOn] at hm
    split at hm
    · rename_i ht
      rcases List.mem_cons.1 hm with rfl | hm
      · exact ht ▸ hrec
      · exact h.delivered t m hm
    · exact h.delivered t m hm
  · intro m hm hdata
    obtain ⟨hmrec, hmnot⟩ := h.cached m hm hdata
    refine ⟨hmrec, ?_⟩
    rw [deliveredOn]
    split
    · refine List.not_mem_cons_of_ne_of_not_mem ?_ hmnot
      rintro rfl
      exact hcache hm
    · exact hmnot
  · intro t
    rw [deliveredOn]
    split
    · rename_i ht
      exact List.nodup_cons.2 ⟨ht ▸ hnot, h.once t⟩
    · exact h.once t

/-- **A time is resent.** -/
theorem Kept.resend (h : Kept cache count log) {slot : ℕ} {n : NitzTime}
    (hright : Right slot n log) : Kept none count (.resent slot n :: log) := by
  have hd := h.clear.deliver hright.received hright.undelivered (by simp)
  exact ⟨hd.counted, hd.sorted, hd.delivered, hd.cached, ⟨hright, h.resends⟩, hd.once⟩

/-- The resend of the cached time is right exactly when that is fresh. -/
theorem Kept.right_iff (h : Kept cache count log) {slot : ℕ} {n : NitzTime} (hn : n ∈ cache)
    (hdata : n.data ≠ []) :
    Right slot n log ↔ n.slot = slot ∧ ∀ m ∈ receivedOn slot log, m.seq ≤ n.seq := by
  constructor
  · intro hright
    refine ⟨slot_of_mem hright.received, fun m hm => ?_⟩
    by_cases hdel : m ∈ deliveredOn slot log
    · exact Nat.le_of_lt (hright.newer m hdel)
    · exact hright.latest m hm hdel
  · rintro ⟨rfl, hlast⟩
    obtain ⟨hrec, hnot⟩ := h.cached n hn hdata
    refine ⟨hrec, hnot, fun m hm _ => hlast m hm, fun m hm => ?_⟩
    have hmrec := h.delivered n.slot m hm
    refine Nat.lt_of_le_of_ne (hlast m hmrec) fun hseq => hnot ?_
    exact h.eq_of_seq hmrec hrec hseq ▸ hm

end Steps

/-- The invariant of a state. -/
def State.Inv (s : State) : Prop := Kept s.lastNITZTimeData s.count s.log

theorem inv_init : State.init.Inv where
  counted := by simp [State.init, receivedOn]
  sorted := by simp [State.init, receivedOn]
  delivered := by simp [State.init, deliveredOn]
  cached := by simp [State.init]
  resends := trivial
  once := by simp [State.init, deliveredOn]

/-- An indication keeps the invariant, whatever client there is. -/
theorem sendUnsolResponse_inv {s : State} (h : s.Inv) (slot : ℕ) (data : List UInt8)
    (allocated : Bool) : (sendUnsolResponse s slot data allocated).Inv := by
  obtain ⟨log, hlog⟩ : ∃ log,
      log = (if data ≠ [] then [Entry.received ⟨s.count, slot, data⟩] else []) ++ s.log := ⟨_, rfl⟩
  have hrec : Kept s.lastNITZTimeData (s.count + 1) log := by
    by_cases hdata : data = []
    · rw [hlog, if_neg (not_not_intro hdata)]
      exact h.skip
    · rw [hlog, if_pos hdata]
      exact h.receive slot data
  have hnew : data ≠ [] → (⟨s.count, slot, data⟩ : NitzTime) ∈ receivedOn slot log ∧
      (⟨s.count, slot, data⟩ : NitzTime) ∉ deliveredOn slot log := by
    intro hdata
    rw [hlog, if_pos hdata]
    refine ⟨?_, h.not_delivered slot _ rfl⟩
    change _ ∈ receivedOn slot (_ :: s.log)
    rw [receivedOn, if_pos rfl]
    exact List.mem_cons_self
  cases hclient : s.client slot with
  | absent =>
      cases allocated with
      | true =>
          simp only [sendUnsolResponse, hclient, nitzTimeReceivedInd, ← hlog]
          exact hrec.store hnew
      | false =>
          simp only [sendUnsolResponse, hclient, nitzTimeReceivedInd, ← hlog]
          exact hrec.clear
  | dead =>
      simp only [sendUnsolResponse, hclient, nitzTimeReceivedInd, ← hlog]
      exact hrec
  | alive =>
      simp only [sendUnsolResponse, hclient, nitzTimeReceivedInd, ← hlog]
      by_cases hdata : data = []
      · simpa [State.Inv, hdata] using hrec
      · obtain ⟨hmem, hnot⟩ := hnew hdata
        have hcache : (⟨s.count, slot, data⟩ : NitzTime) ∉ s.lastNITZTimeData := by
          intro hn
          have := h.counted slot _ (h.cached _ hn hdata).1
          simp at this
        rw [if_pos (decide_eq_true hdata)]
        exact hrec.deliver hmem hnot hcache

/-- A resend that finds a client and a time. -/
theorem resend_log {s : State} {slot : ℕ} {n : NitzTime} (hclient : s.client slot = .alive)
    (hn : s.lastNITZTimeData = some n) (hdata : n.data ≠ []) :
    (resendLastNITZTimeData s slot).log = .resent slot n :: s.log ∧
      (resendLastNITZTimeData s slot).lastNITZTimeData = none := by
  simp [resendLastNITZTimeData, hn, hclient, nitzTimeReceivedInd, hdata]

/-- A resend keeps the invariant when the time is fresh. -/
theorem resend_inv {s : State} (h : s.Inv) {slot : ℕ}
    (hok : (Event.resend slot).Fresh s) : (resendLastNITZTimeData s slot).Inv := by
  rcases hcache : s.lastNITZTimeData with _ | n
  · simpa only [resendLastNITZTimeData, hcache] using h
  cases hclient : s.client slot with
  | absent =>
      simpa [State.Inv, resendLastNITZTimeData, hcache, hclient, nitzTimeReceivedInd] using h
  | dead =>
      have hclear := h.clear
      simpa [State.Inv, resendLastNITZTimeData, hcache, hclient, nitzTimeReceivedInd] using hclear
  | alive =>
      by_cases hdata : n.data = []
      · have hclear := h.clear
        simpa [State.Inv, resendLastNITZTimeData, hcache, hclient, nitzTimeReceivedInd, hdata]
          using hclear
      · obtain ⟨hlog, hnone⟩ := resend_log hclient hcache hdata
        have hcount : (resendLastNITZTimeData s slot).count = s.count := by
          rw [resendLastNITZTimeData, hcache]
        rw [State.Inv, hlog, hnone, hcount]
        exact h.resend ((h.right_iff hcache hdata).2 (hok hclient n hcache hdata))

/-- **One step.** -/
theorem step_inv {s s' : State} {e : Event} (h : s.Inv)
    (hok : e.Fresh s) (hs : step s e = some s') : s'.Inv := by
  cases e with
  | connect slot =>
      cases Option.some.inj hs
      exact h
  | disconnect slot =>
      cases Option.some.inj hs
      exact h
  | die slot =>
      simp only [step] at hs
      split at hs
      · cases Option.some.inj hs
        exact h
      · exact nomatch hs
  | otherCall slot =>
      simp only [step] at hs
      split at hs
      · cases Option.some.inj hs
        exact h
      · cases Option.some.inj hs
        exact h
  | indication slot data allocated =>
      cases Option.some.inj hs
      exact sendUnsolResponse_inv h slot data allocated
  | resend slot =>
      simp only [step] at hs
      split at hs
      · exact nomatch hs
      · cases Option.some.inj hs
        exact resend_inv (s := { s with due := Function.update s.due slot (s.due slot - 1) }) h hok

/-- **A step that is not allowed** resends what should not be. -/
theorem step_not_fresh {s s' : State} {e : Event} (h : s.Inv)
    (hbad : ¬ e.Fresh s) (hs : step s e = some s') : ¬ s'.Correct := by
  cases e with
  | connect slot => exact absurd trivial hbad
  | disconnect slot => exact absurd trivial hbad
  | die slot => exact absurd trivial hbad
  | otherCall slot => exact absurd trivial hbad
  | indication slot data allocated => exact absurd trivial hbad
  | resend slot =>
      simp only [Event.Fresh] at hbad
      push Not at hbad
      obtain ⟨hclient, n, hn, hdata, hstale⟩ := hbad
      simp only [step] at hs
      split at hs
      · exact nomatch hs
      · cases Option.some.inj hs
        intro hcorrect
        have hresends := hcorrect.resends
        rw [(resend_log (s := { s with due := Function.update s.due slot (s.due slot - 1) })
          hclient hn hdata).1] at hresends
        obtain ⟨hslot, hlast⟩ := (h.right_iff hn hdata).1 hresends.1
        obtain ⟨m, hm, hlt⟩ := hstale hslot
        have := hlast m hm
        omega

/-! ## Main result -/

end Radio.Nitz
