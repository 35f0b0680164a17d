/-
# The pending request lists

Every request libril passes on is an entry of a singly linked list, one list for each
socket: `addRequestToList` allocates and links it, `RIL_onRequestComplete` unlinks and
frees it through `checkAndDequeueRequestInfoIfAck`, and `RIL_onRequestAck` only marks
it.  The model keeps the cells in a heap, with the link of each cell in its
`RequestInfo`, and records beside it which requests were added, answered and settled.

A request is settled when libril is done with it: its response function was called,
or it was completed without a response (a local request, a row without response
function).

Main result: `pending_accounting` says when the lists hold exactly the unsettled requests,
and what holds of unknown tokens and of acknowledgements in any case.
-/
import Mathlib.Data.List.Nodup
import Ct07.Lib.Run
import Ct07.Lib.Chain
import Ct07.Ril.Selection

open LinkedChain PartialStep

namespace Ril.Pending

/-! ## State -/

/-- What the lists are made of, and the record of what happened to each request.
Requests are numbered in the order in which they are added. -/
structure State where
  /-- The allocated `RequestInfo`s. -/
  heap : ℕ → Option RequestInfo
  /-- `s_pendingRequests`, `s_pendingRequests_socket2`, and so on. -/
  pendingRequests : Fin 4 → Option ℕ
  /-- The tokens that `malClaim` recognises. -/
  malInflight : ℕ → Bool
  /-- The number of requests added so far. -/
  issued : ℕ
  /-- The number of the request an allocated cell holds. -/
  requestOf : ℕ → ℕ
  /-- The requests added to each list, the latest first. -/
  added : Fin 4 → List ℕ
  /-- The requests whose response function was called, the latest call first. -/
  answered : List ℕ
  /-- The requests libril is done with, the latest first. -/
  settled : List ℕ

/-- Before the first request. -/
def State.init : State :=
  { heap := fun _ => none
    pendingRequests := fun _ => none
    malInflight := fun _ => false
    issued := 0
    requestOf := fun _ => 0
    added := fun _ => []
    answered := []
    settled := [] }

/-- The link of a cell. -/
def State.next (s : State) (a : ℕ) : Option ℕ := (s.heap a).bind RequestInfo.pNext

/-- The list `k` consists of the cells `l`. -/
def State.Linked (s : State) (k : Fin 4) (l : List ℕ) : Prop :=
  Spans s.next (s.pendingRequests k) l

/-- The list that a socket id selects in a library built for `simCount` SIMs. -/
def pendingRequestsHook (simCount socketId : ℕ) : Fin 4 :=
  if 2 ≤ simCount ∧ socketId = 1 then 1
  else if 3 ≤ simCount ∧ socketId = 2 then 2
  else if 4 ≤ simCount ∧ socketId = 3 then 3
  else 0

/-- The list that an allocated cell belongs to. -/
def State.listOf (simCount : ℕ) (s : State) (a : ℕ) : Option (Fin 4) :=
  (s.heap a).map fun ri => pendingRequestsHook simCount ri.socketId

section Operations

variable (c : Commands) (mtkCommandStart simCount : ℕ)

/-! ## Operations -/

/-- `addRequestToList`, with the cell that `calloc` returns. -/
def addRequestToList (s : State) (serial : ℤ) (slotId request cell : ℕ) : State :=
  let hook := pendingRequestsHook simCount slotId
  let ri := { newRequestInfo c mtkCommandStart serial slotId request with
    pNext := s.pendingRequests hook }
  { s with
    heap := Function.update s.heap cell (some ri)
    pendingRequests := Function.update s.pendingRequests hook (some cell)
    issued := s.issued + 1
    requestOf := Function.update s.requestOf cell s.issued
    added := Function.update s.added hook (s.issued :: s.added hook) }

/-- `sendErrorResponse` on a request: `none` when its row has no response function to
call. -/
def sendErrorResponse (s : State) (cell : ℕ) : Option State :=
  match s.heap cell with
  | none => none
  | some ri =>
      if (c.at ri.pCI).responseFunction.isSome then
        some { s with
          answered := s.requestOf cell :: s.answered
          settled := s.requestOf cell :: s.settled }
      else none

/-- `*ppCur = (*ppCur)->p_next`, for the place `ppCur` of list `hook` that links `t`. -/
def unlink (s : State) (hook : Fin 4) (t : ℕ) (place : Place ℕ) : State :=
  let q := s.next t
  match place with
  | .head => { s with pendingRequests := Function.update s.pendingRequests hook q }
  | .link a =>
      let cell := (s.heap a).map fun ri => { ri with pNext := q }
      { s with heap := Function.update s.heap a cell }

/-- Mark a cell as acknowledged. -/
def markAck (s : State) (t : ℕ) : State :=
  let cell := (s.heap t).map fun ri => { ri with wasAckSent := true }
  { s with heap := Function.update s.heap t cell }

/-- `checkAndDequeueRequestInfoIfAck`.  `strange` is the socket id read through a token
that is not an allocated `RequestInfo`. -/
def checkAndDequeueRequestInfoIfAck (s : State) (t : Option ℕ) (strange : ℕ) (isAck : Bool) :
    State × Bool :=
  match t with
  | none => (s, false)
  | some t =>
      -- the socket id is read through the token before anything is known of it
      let socketId := (s.heap t).elim strange RequestInfo.socketId
      let hook := pendingRequestsHook simCount socketId
      match find s.next t s.issued .head (s.pendingRequests hook) with
      | none => (s, false)
      | some place => (if isAck then markAck s t else unlink s hook t place, true)

/-- `RIL_onRequestAck`. -/
def onRequestAck (s : State) (t : Option ℕ) (strange : ℕ) : State :=
  (checkAndDequeueRequestInfoIfAck simCount s t strange true).1

/-- The answer of `RIL_onRequestComplete` to a request it has unlinked, and the `free`. -/
def finish (s : State) (t : ℕ) : State :=
  let answers (ri : RequestInfo) : Bool :=
    !ri.isLocal && !ri.cancelled && (c.at ri.pCI).responseFunction.isSome
  { s with
    heap := Function.update s.heap t none
    answered :=
      if (s.heap t).any answers then s.requestOf t :: s.answered else s.answered
    settled := s.requestOf t :: s.settled }

/-- `RIL_onRequestComplete`. -/
def onRequestComplete (s : State) (t : Option ℕ) (strange : ℕ) : State :=
  if t.any s.malInflight then s
  else
    match t, checkAndDequeueRequestInfoIfAck simCount s t strange false with
    | some t, (s', true) => finish c s' t
    | _, _ => s

/-! ## Steps -/

/-- What can happen to the lists. -/
inductive Event where
  /-- Route `route` of entry point `e` issues a request.  `cell` is what `calloc`
  returns, and `own` the error with which the route answers the request itself. -/
  | request (e : EntryPoint) (route : Route) (cell : Option ℕ) (serial : ℤ) (slotId : ℕ)
      (own : Option OwnError)
  | onRequestAck (t : Option ℕ) (strange : ℕ)
  | onRequestComplete (t : Option ℕ) (strange : ℕ)
  /-- `malDispatch` allocates a token, and frees it. -/
  | malTokenIssued (t : ℕ)
  | malTokenFreed (t : ℕ)

/-- A cell that `calloc` or `malloc` can return. -/
def State.Fresh (s : State) (a : ℕ) : Prop := s.heap a = none ∧ s.malInflight a = false

instance (s : State) (a : ℕ) : Decidable (s.Fresh a) := inferInstanceAs (Decidable (_ ∧ _))

/-- A route can end by forwarding the request, or with one of its own errors. -/
def canEndWith (route : Route) : Option OwnError → Bool
  | none => route.forwards
  | some err => route.ownErrors.contains err

/-- One step.  `none` when the event cannot happen in the state, or ends the process. -/
def step (s : State) : Event → Option State
  | .request e route cell serial slotId own =>
      if route ∈ e.routes ∧ slotId < simCount ∧ canEndWith route own then
        match cell with
        -- without the test the next line reads through a null pointer
        | none => if route.checksNull then some s else none
        | some a =>
            if s.Fresh a then
              let s' := addRequestToList c mtkCommandStart simCount s serial slotId
                route.request.code a
              own.elim (some s') fun _ => sendErrorResponse c s' a
            else none
      else none
  | .onRequestAck t strange => some (onRequestAck simCount s t strange)
  | .onRequestComplete t strange => some (onRequestComplete c simCount s t strange)
  | .malTokenIssued t =>
      if s.Fresh t then some { s with malInflight := Function.update s.malInflight t true }
      else none
  | .malTokenFreed t =>
      some { s with malInflight := Function.update s.malInflight t false }

end Operations

/-! ## Accounting -/

/-- The accounting: no request is answered twice, and each list holds exactly the
requests added to it that are not settled. -/
structure State.Accounted (s : State) : Prop where
  answered_once : s.answered.Nodup
  pending : ∀ k, ∃ l, s.Linked k l ∧
    l.map s.requestOf = (s.added k).filter (fun n => n ∉ s.settled)

/-- The entry point does not answer the request it has added. -/
def Event.LeavesAnswerToVendor : Event → Prop
  | .request _ _ cell _ _ own => cell = none ∨ own = none
  | _ => True

instance : DecidablePred Event.LeavesAnswerToVendor := fun e => by
  cases e <;> simp only [Event.LeavesAnswerToVendor] <;> infer_instance

/-! ## What holds in every reachable state -/

/-- The lists `l` are the pending lists of `s`: each allocated cell is linked in the list
of its socket, and carries a request number of its own. -/
structure Tracks (simCount : ℕ) (s : State) (l : Fin 4 → List ℕ) : Prop where
  linked : ∀ k, s.Linked k (l k)
  nodup : ∀ k, (l k).Nodup
  mem_iff : ∀ k a, a ∈ l k ↔ s.listOf simCount a = some k
  length_le : ∀ k, (l k).length ≤ s.issued
  requestOf_lt : ∀ k, ∀ a ∈ l k, s.requestOf a < s.issued
  requestOf_inj : ∀ j k, ∀ a ∈ l j, ∀ b ∈ l k, s.requestOf a = s.requestOf b → a = b
  added_lt : ∀ k, ∀ n ∈ s.added k, n < s.issued
  answered_settled : ∀ n ∈ s.answered, n ∈ s.settled
  settled_lt : ∀ n ∈ s.settled, n < s.issued

/-- The pending lists are well formed. -/
def State.WellFormed (simCount : ℕ) (s : State) : Prop := ∃ l, Tracks simCount s l

theorem wellFormed_init (simCount : ℕ) : State.init.WellFormed simCount := by
  refine ⟨fun _ => [], ?_, ?_, ?_, ?_, ?_, ?_, ?_, ?_, ?_⟩ <;>
    simp [State.init, State.Linked, Spans, State.listOf]

theorem accounted_init : State.init.Accounted := by
  refine ⟨by simp [State.init], fun k => ⟨[], ?_, ?_⟩⟩ <;>
    simp [State.init, State.Linked, Spans]

section Lemmas

variable {c : Commands} {mtkCommandStart simCount : ℕ} {s : State} {l : Fin 4 → List ℕ}

theorem Tracks.not_mem (h : Tracks simCount s l) {a : ℕ} (ha : s.heap a = none) (k : Fin 4) :
    a ∉ l k := by
  simp [h.mem_iff, State.listOf, ha]

theorem Tracks.mem_of_heap (h : Tracks simCount s l) {a : ℕ} {ri : RequestInfo}
    (ha : s.heap a = some ri) : a ∈ l (pendingRequestsHook simCount ri.socketId) := by
  simp [h.mem_iff, State.listOf, ha]

theorem Tracks.heap_of_mem (h : Tracks simCount s l) {k : Fin 4} {a : ℕ} (ha : a ∈ l k) :
    ∃ ri, s.heap a = some ri := by
  have hk := (h.mem_iff k a).1 ha
  cases hcell : s.heap a with
  | none => simp [State.listOf, hcell] at hk
  | some ri => exact ⟨ri, rfl⟩

/-- A cell is in one list only. -/
theorem Tracks.disjoint (h : Tracks simCount s l) {j k : Fin 4} {a : ℕ} (hj : a ∈ l j)
    (hk : a ∈ l k) : j = k := by
  rw [h.mem_iff] at hj hk
  exact Option.some.inj (hj.symm.trans hk)

/-- The accounting, in terms of the tracked lists. -/
theorem Tracks.accounted_iff (h : Tracks simCount s l) :
    s.Accounted ↔ s.answered.Nodup ∧
      ∀ k, (l k).map s.requestOf = (s.added k).filter (fun n => n ∉ s.settled) := by
  constructor
  · rintro ⟨hans, hpend⟩
    refine ⟨hans, fun k => ?_⟩
    obtain ⟨l', hl', heq⟩ := hpend k
    rw [(h.linked k).unique hl']
    exact heq
  · rintro ⟨hans, heq⟩
    exact ⟨hans, fun k => ⟨l k, h.linked k, heq k⟩⟩

/-! ### Adding a request -/

/-- The lists once the cell `a` is in front of list `k`. -/
def pushed (l : Fin 4 → List ℕ) (k : Fin 4) (a : ℕ) : Fin 4 → List ℕ :=
  Function.update l k (a :: l k)

theorem mem_pushed {k j : Fin 4} {a b : ℕ} :
    b ∈ pushed l k a j ↔ b = a ∧ j = k ∨ b ∈ l j := by
  by_cases hj : j = k
  · subst hj
    simp [pushed]
  · simp [pushed, hj]

section Add

variable (serial : ℤ) (slotId request : ℕ) {a : ℕ}

theorem addRequestToList_next :
    (addRequestToList c mtkCommandStart simCount s serial slotId request a).next =
      Function.update s.next a (s.pendingRequests (pendingRequestsHook simCount slotId)) := by
  funext b
  by_cases hb : b = a
  · subst hb
    simp [State.next, addRequestToList]
  · simp [State.next, addRequestToList, hb]

theorem addRequestToList_listOf :
    (addRequestToList c mtkCommandStart simCount s serial slotId request a).listOf simCount =
      Function.update (s.listOf simCount) a (some (pendingRequestsHook simCount slotId)) := by
  funext b
  by_cases hb : b = a
  · subst hb
    simp [State.listOf, addRequestToList, newRequestInfo]
  · simp [State.listOf, addRequestToList, hb]

theorem addRequestToList_requestOf :
    (addRequestToList c mtkCommandStart simCount s serial slotId request a).requestOf =
      Function.update s.requestOf a s.issued := rfl

theorem addRequestToList_linked (h : Tracks simCount s l) (ha : s.heap a = none) (k : Fin 4) :
    (addRequestToList c mtkCommandStart simCount s serial slotId request a).Linked k
      (pushed l (pendingRequestsHook simCount slotId) a k) := by
  unfold State.Linked
  rw [addRequestToList_next]
  by_cases hk : k = pendingRequestsHook simCount slotId
  · subst hk
    simpa [addRequestToList, pushed] using (h.linked _).push (h.not_mem ha _)
  · have hne : ∀ b ∈ l k, b ≠ a := by
      rintro b hb rfl
      exact h.not_mem ha k hb
    have hframe := (h.linked k).congr fun b hb => Function.update_of_ne (hne b hb)
      (s.pendingRequests (pendingRequestsHook simCount slotId)) s.next
    simpa [addRequestToList, pushed, hk] using hframe

/-- A request is added in front of the list of its slot. -/
theorem addRequestToList_tracks (h : Tracks simCount s l) (ha : s.heap a = none) :
    Tracks simCount (addRequestToList c mtkCommandStart simCount s serial slotId request a)
      (pushed l (pendingRequestsHook simCount slotId) a) := by
  have hne : ∀ k, ∀ b ∈ l k, b ≠ a := by
    rintro k b hb rfl
    exact h.not_mem ha k hb
  refine
    { linked := addRequestToList_linked serial slotId request h ha
      nodup := fun k => ?_
      mem_iff := fun k b => ?_
      length_le := fun k => ?_
      requestOf_lt := fun k b hb => ?_
      requestOf_inj := fun j k b hb d hd heq => ?_
      added_lt := fun k n hn => ?_
      answered_settled := h.answered_settled
      settled_lt := fun n hn => Nat.lt_succ_of_lt (h.settled_lt n hn) }
  · by_cases hk : k = pendingRequestsHook simCount slotId
    · subst hk
      simpa [pushed] using ⟨h.not_mem ha _, h.nodup _⟩
    · simpa [pushed, hk] using h.nodup k
  · rw [mem_pushed, addRequestToList_listOf]
    by_cases hb : b = a
    · subst hb
      simp [h.not_mem ha k, eq_comm]
    · simp [hb, h.mem_iff]
  · have hlen := h.length_le k
    by_cases hk : k = pendingRequestsHook simCount slotId
    · subst hk
      simpa [addRequestToList, pushed] using hlen
    · simpa [addRequestToList, pushed, hk] using Nat.le_succ_of_le hlen
  · rw [addRequestToList_requestOf]
    rcases mem_pushed.1 hb with ⟨rfl, -⟩ | hb
    · simp [addRequestToList]
    · rw [Function.update_of_ne (hne k b hb)]
      exact Nat.lt_succ_of_lt (h.requestOf_lt k b hb)
  · rw [addRequestToList_requestOf] at heq
    rcases mem_pushed.1 hb with ⟨hba, -⟩ | hbl
    · rcases mem_pushed.1 hd with ⟨hda, -⟩ | hdl
      · rw [hba, hda]
      · rw [hba, Function.update_self, Function.update_of_ne (hne k d hdl)] at heq
        exact absurd heq (Nat.ne_of_gt (h.requestOf_lt k d hdl))
    · rcases mem_pushed.1 hd with ⟨hda, -⟩ | hdl
      · rw [hda, Function.update_self, Function.update_of_ne (hne j b hbl)] at heq
        exact absurd heq (Nat.ne_of_lt (h.requestOf_lt j b hbl))
      · rw [Function.update_of_ne (hne j b hbl), Function.update_of_ne (hne k d hdl)] at heq
        exact h.requestOf_inj j k b hbl d hdl heq
  · by_cases hk : k = pendingRequestsHook simCount slotId
    · subst hk
      simp only [addRequestToList, Function.update_self, List.mem_cons] at hn ⊢
      rcases hn with rfl | hn
      · exact Nat.lt_succ_self _
      · exact Nat.lt_succ_of_lt (h.added_lt _ n hn)
    · simp only [addRequestToList, Function.update_of_ne hk] at hn ⊢
      exact Nat.lt_succ_of_lt (h.added_lt k n hn)

end Add

/-! ### Looking a token up -/

/-- The scan of `checkAndDequeueRequestInfoIfAck` finds the place that links the token. -/
theorem Tracks.find_eq (h : Tracks simCount s l) (k : Fin 4) (t : ℕ) :
    find s.next t s.issued .head (s.pendingRequests k) = predecessor t .head (l k) :=
  find_eq_predecessor (h.linked k) t (h.length_le k) .head

/-- A token that is not an allocated `RequestInfo` is not found, whatever is read
through it. -/
theorem check_unknown (h : Tracks simCount s l) {t : Option ℕ}
    (ht : ∀ a, t = some a → s.heap a = none) (strange : ℕ) (isAck : Bool) :
    checkAndDequeueRequestInfoIfAck simCount s t strange isAck = (s, false) := by
  cases t with
  | none => rfl
  | some a =>
      have hnot := (predecessor_eq_none .head).2
        (h.not_mem (ht a rfl) (pendingRequestsHook simCount strange))
      simp only [checkAndDequeueRequestInfoIfAck, ht a rfl, Option.elim_none, h.find_eq, hnot]

/-- An allocated `RequestInfo` is found in the list of its socket. -/
theorem check_known (h : Tracks simCount s l) {a : ℕ} {ri : RequestInfo}
    (ha : s.heap a = some ri) (strange : ℕ) (isAck : Bool) :
    ∃ place, predecessor a .head (l (pendingRequestsHook simCount ri.socketId)) = some place ∧
      checkAndDequeueRequestInfoIfAck simCount s (some a) strange isAck =
        (if isAck then markAck s a
          else unlink s (pendingRequestsHook simCount ri.socketId) a place, true) := by
  obtain ⟨place, hplace⟩ := Option.isSome_iff_exists.1
    ((predecessor_isSome .head).2 (h.mem_of_heap ha))
  refine ⟨place, hplace, ?_⟩
  simp only [checkAndDequeueRequestInfoIfAck, ha, Option.elim_some, h.find_eq, hplace]

/-- A token is unknown, and nothing happens, or it is that of an allocated `RequestInfo`. -/
theorem check_cases (h : Tracks simCount s l) (t : Option ℕ) (strange : ℕ) (isAck : Bool) :
    checkAndDequeueRequestInfoIfAck simCount s t strange isAck = (s, false) ∨
      ∃ k a place, t = some a ∧ predecessor a .head (l k) = some place ∧
        checkAndDequeueRequestInfoIfAck simCount s t strange isAck =
          (if isAck then markAck s a else unlink s k a place, true) := by
  by_cases hunknown : ∀ a, t = some a → s.heap a = none
  · exact .inl (check_unknown h hunknown strange isAck)
  · right
    push Not at hunknown
    obtain ⟨a, rfl, hcell⟩ := hunknown
    obtain ⟨ri, hri⟩ := Option.ne_none_iff_exists'.1 hcell
    obtain ⟨place, hplace, hcheck⟩ := check_known h hri strange isAck
    exact ⟨_, a, place, rfl, hplace, hcheck⟩

/-! ### Acknowledging -/

theorem markAck_next (t : ℕ) : (markAck s t).next = s.next := by
  funext b
  by_cases hb : b = t
  · subst hb
    cases hcell : s.heap b <;> simp [State.next, markAck, hcell]
  · simp [State.next, markAck, hb]

theorem markAck_listOf (t : ℕ) : (markAck s t).listOf simCount = s.listOf simCount := by
  funext b
  by_cases hb : b = t
  · subst hb
    cases hcell : s.heap b <;> simp [State.listOf, markAck, hcell]
  · simp [State.listOf, markAck, hb]

theorem markAck_tracks (h : Tracks simCount s l) (t : ℕ) : Tracks simCount (markAck s t) l :=
  { h with
    linked := fun k => by
      unfold State.Linked
      rw [markAck_next]
      exact h.linked k
    mem_iff := fun k a => by rw [markAck_listOf, h.mem_iff] }

/-! ### Unlinking and freeing -/

/-- Unlinking touches nothing but heads and links. -/
theorem unlink_record (k : Fin 4) (t : ℕ) (place : Place ℕ) :
    (unlink s k t place).issued = s.issued ∧ (unlink s k t place).requestOf = s.requestOf ∧
      (unlink s k t place).added = s.added ∧ (unlink s k t place).answered = s.answered ∧
      (unlink s k t place).settled = s.settled := by
  cases place <;> exact ⟨rfl, rfl, rfl, rfl, rfl⟩

theorem unlink_pendingRequests (k : Fin 4) (t : ℕ) (place : Place ℕ) :
    (unlink s k t place).pendingRequests =
      Function.update s.pendingRequests k (writeHead (s.pendingRequests k) (s.next t) place) := by
  cases place <;> simp [unlink, writeHead]

theorem unlink_listOf (k : Fin 4) (t : ℕ) (place : Place ℕ) :
    (unlink s k t place).listOf simCount = s.listOf simCount := by
  cases place with
  | head => rfl
  | link a =>
      funext b
      by_cases hb : b = a
      · subst hb
        cases hcell : s.heap b <;> simp [State.listOf, unlink, hcell]
      · simp [State.listOf, unlink, hb]

theorem finish_listOf (t : ℕ) :
    (finish c s t).listOf simCount = Function.update (s.listOf simCount) t none := by
  funext b
  by_cases hb : b = t
  · subst hb
    simp [State.listOf, finish]
  · simp [State.listOf, finish, hb]

section Remove

variable {k : Fin 4} {t : ℕ} {place : Place ℕ}

/-- The links after the unlinking, for a place in a list. -/
theorem unlink_next (h : Tracks simCount s l)
    (hplace : predecessor t .head (l k) = some place) :
    (unlink s k t place).next = writeLink s.next (s.next t) place := by
  cases place with
  | head => rfl
  | link a =>
      obtain ⟨ri, hri⟩ := h.heap_of_mem (predecessor_mem hplace)
      funext b
      by_cases hb : b = a
      · subst hb
        simp [State.next, unlink, writeLink, hri]
      · simp [State.next, unlink, writeLink, hb]

/-- Unlinking removes the cell from its list and leaves the others alone. -/
theorem unlink_linked (h : Tracks simCount s l)
    (hplace : predecessor t .head (l k) = some place) (j : Fin 4) :
    (unlink s k t place).Linked j ((l j).erase t) := by
  unfold State.Linked
  rw [unlink_next h hplace, unlink_pendingRequests]
  by_cases hj : j = k
  · subst hj
    rw [Function.update_self]
    exact spans_unlink (h.linked j) (h.nodup j) hplace
  · have ht : t ∈ l k := (predecessor_isSome _).1 (by rw [hplace]; rfl)
    rw [Function.update_of_ne hj,
      List.erase_of_not_mem fun htj => hj (h.disjoint htj ht)]
    refine (h.linked j).congr fun b hb => ?_
    cases place with
    | head => rfl
    | link a =>
        have hba : b ≠ a := by
          rintro rfl
          exact hj (h.disjoint hb (predecessor_mem hplace))
        exact Function.update_of_ne hba _ _

/-- A completed request leaves its list, and nothing else changes in the lists. -/
theorem finish_unlink_tracks (h : Tracks simCount s l)
    (hplace : predecessor t .head (l k) = some place) :
    Tracks simCount (finish c (unlink s k t place) t) (fun j => (l j).erase t) := by
  obtain ⟨hissued, hof, hadded, hanswered, hsettled⟩ := unlink_record (s := s) k t place
  have ht : t ∈ l k := (predecessor_isSome _).1 (by rw [hplace]; rfl)
  have hmem : ∀ j a, a ∈ (l j).erase t → a ∈ l j := fun j a => List.mem_of_mem_erase
  have hne : ∀ j, ∀ a ∈ (l j).erase t, a ≠ t := fun j a ha => ((h.nodup j).mem_erase_iff.1 ha).1
  refine
    { linked := fun j => ?_
      nodup := fun j => (h.nodup j).erase t
      mem_iff := fun j a => ?_
      length_le := fun j => ?_
      requestOf_lt := fun j a ha => ?_
      requestOf_inj := fun i j a ha b hb heq => ?_
      added_lt := fun j n hn => ?_
      answered_settled := fun n hn => ?_
      settled_lt := fun n hn => ?_ }
  · refine (unlink_linked h hplace j).congr fun b hb => ?_
    simp [State.next, finish, hne j b hb]
  · rw [finish_listOf, unlink_listOf, (h.nodup j).mem_erase_iff, h.mem_iff]
    by_cases ha : a = t
    · simp [ha]
    · simp [ha]
  · have := h.length_le j
    have := List.length_erase_le (a := t) (l := l j)
    simp only [finish, hissued]
    omega
  · simpa [finish, hissued, hof] using h.requestOf_lt j a (hmem j a ha)
  · simp only [finish, hof] at heq
    exact h.requestOf_inj i j a (hmem i a ha) b (hmem j b hb) heq
  · simp only [finish, hissued, hadded] at hn ⊢
    exact h.added_lt j n hn
  · simp only [finish, hof, hanswered, hsettled] at hn ⊢
    split at hn
    · rcases List.mem_cons.1 hn with rfl | hn
      · simp
      · exact List.mem_cons_of_mem _ (h.answered_settled n hn)
    · exact List.mem_cons_of_mem _ (h.answered_settled n hn)
  · simp only [finish, hof, hissued, hsettled] at hn ⊢
    rcases List.mem_cons.1 hn with rfl | hn
    · exact h.requestOf_lt k t ht
    · exact h.settled_lt n hn

end Remove

/-- What `RIL_onRequestComplete` does to a token: nothing, or the removal of the cell. -/
theorem onRequestComplete_cases (h : Tracks simCount s l) (t : Option ℕ) (strange : ℕ) :
    onRequestComplete c simCount s t strange = s ∨
      ∃ k a place, predecessor a .head (l k) = some place ∧
        onRequestComplete c simCount s t strange = finish c (unlink s k a place) a := by
  unfold onRequestComplete
  by_cases hmal : t.any s.malInflight
  · exact Or.inl (if_pos hmal)
  · rw [if_neg hmal]
    rcases check_cases h t strange false with hcheck | ⟨k, a, place, rfl, hplace, hcheck⟩
    · rw [hcheck]
      cases t <;> exact Or.inl rfl
    · rw [hcheck]
      exact Or.inr ⟨k, a, place, hplace, rfl⟩

theorem onRequestAck_cases (h : Tracks simCount s l) (t : Option ℕ) (strange : ℕ) :
    onRequestAck simCount s t strange = s ∨
      ∃ a, onRequestAck simCount s t strange = markAck s a := by
  unfold onRequestAck
  rcases check_cases h t strange true with hcheck | ⟨k, a, place, rfl, -, hcheck⟩
  · rw [hcheck]
    exact Or.inl rfl
  · rw [hcheck]
    exact Or.inr ⟨a, rfl⟩

/-- What `sendErrorResponse` adds to the record. -/
theorem sendErrorResponse_eq {s s' : State} {a : ℕ} (h : sendErrorResponse c s a = some s') :
    s' = { s with
      answered := s.requestOf a :: s.answered
      settled := s.requestOf a :: s.settled } := by
  unfold sendErrorResponse at h
  split at h
  · exact absurd h (by simp)
  · split at h
    · exact (Option.some.inj h).symm
    · exact absurd h (by simp)

/-- What one step can do. -/
theorem step_cases {s s' : State} {e : Event}
    (h : step c mtkCommandStart simCount s e = some s') :
    (∃ serial slotId request a, s.heap a = none ∧ e.LeavesAnswerToVendor ∧
        s' = addRequestToList c mtkCommandStart simCount s serial slotId request a) ∨
      (∃ serial slotId request a s₁, s.heap a = none ∧ ¬ e.LeavesAnswerToVendor ∧
        s₁ = addRequestToList c mtkCommandStart simCount s serial slotId request a ∧
        sendErrorResponse c s₁ a = some s') ∨
      (e.LeavesAnswerToVendor ∧
        ((∃ t strange, s' = onRequestAck simCount s t strange) ∨
          (∃ t strange, s' = onRequestComplete c simCount s t strange) ∨
          ∃ inflight, s' = { s with malInflight := inflight })) := by
  cases e with
  | request e route cell serial slotId own =>
      simp only [step] at h
      split at h
      · cases cell with
        | none =>
            refine Or.inr (Or.inr ⟨Or.inl rfl, Or.inr (Or.inr ⟨s.malInflight, ?_⟩)⟩)
            simp only at h
            split at h
            · exact (Option.some.inj h).symm
            · exact absurd h (by simp)
        | some a =>
            simp only at h
            split at h
            · rename_i hfresh
              cases own with
              | none =>
                  exact Or.inl ⟨serial, slotId, _, a, hfresh.1, Or.inr rfl,
                    (Option.some.inj h).symm⟩
              | some err =>
                  refine Or.inr (Or.inl ⟨serial, slotId, _, a, _, hfresh.1, ?_, rfl, h⟩)
                  simp [Event.LeavesAnswerToVendor]
            · exact absurd h (by simp)
      · exact absurd h (by simp)
  | onRequestAck t strange =>
      exact Or.inr (Or.inr ⟨trivial, Or.inl ⟨t, strange, (Option.some.inj h).symm⟩⟩)
  | onRequestComplete t strange =>
      exact Or.inr (Or.inr ⟨trivial, Or.inr (Or.inl ⟨t, strange, (Option.some.inj h).symm⟩)⟩)
  | malTokenIssued t =>
      refine Or.inr (Or.inr ⟨trivial, Or.inr (Or.inr ?_)⟩)
      simp only [step] at h
      split at h
      · exact ⟨_, (Option.some.inj h).symm⟩
      · exact absurd h (by simp)
  | malTokenFreed t =>
      exact Or.inr (Or.inr ⟨trivial, Or.inr (Or.inr ⟨_, (Option.some.inj h).symm⟩)⟩)

/-! ### The lists along a run -/

theorem sendErrorResponse_tracks {s' : State} {a : ℕ} (h : Tracks simCount s l) {k : Fin 4}
    (ha : a ∈ l k) (hs : sendErrorResponse c s a = some s') : Tracks simCount s' l := by
  rw [sendErrorResponse_eq hs]
  refine ⟨h.linked, h.nodup, h.mem_iff, h.length_le, h.requestOf_lt, h.requestOf_inj,
    h.added_lt, fun n hn => ?_, fun n hn => ?_⟩
  · rcases List.mem_cons.1 hn with rfl | hn
    · exact List.mem_cons_self
    · exact List.mem_cons_of_mem _ (h.answered_settled n hn)
  · rcases List.mem_cons.1 hn with rfl | hn
    · exact h.requestOf_lt k a ha
    · exact h.settled_lt n hn

/-- Every step keeps the lists well formed. -/
theorem step_wellFormed {s s' : State} {e : Event} (h : s.WellFormed simCount)
    (hstep : step c mtkCommandStart simCount s e = some s') : s'.WellFormed simCount := by
  obtain ⟨l, hl⟩ := h
  rcases step_cases hstep with ⟨serial, slotId, request, a, ha, -, rfl⟩ |
    ⟨serial, slotId, request, a, s₁, ha, -, rfl, herr⟩ |
    ⟨-, ⟨t, strange, rfl⟩ | ⟨t, strange, rfl⟩ | ⟨inflight, rfl⟩⟩
  · exact ⟨_, addRequestToList_tracks serial slotId request hl ha⟩
  · exact ⟨_, sendErrorResponse_tracks (addRequestToList_tracks serial slotId request hl ha)
      (mem_pushed.2 (Or.inl ⟨rfl, rfl⟩)) herr⟩
  · rcases onRequestAck_cases hl t strange with heq | ⟨a, heq⟩
    · rw [heq]
      exact ⟨l, hl⟩
    · rw [heq]
      exact ⟨l, markAck_tracks hl a⟩
  · rcases onRequestComplete_cases (c := c) hl t strange with heq | ⟨k, a, place, hplace, heq⟩
    · rw [heq]
      exact ⟨l, hl⟩
    · rw [heq]
      exact ⟨_, finish_unlink_tracks hl hplace⟩
  · exact ⟨l, { hl with }⟩

theorem addRequestToList_accounted (h : Tracks simCount s l) (hacc : s.Accounted)
    (serial : ℤ) (slotId request : ℕ) {a : ℕ} (ha : s.heap a = none) :
    (addRequestToList c mtkCommandStart simCount s serial slotId request a).Accounted := by
  obtain ⟨hans, hpend⟩ := h.accounted_iff.1 hacc
  refine (addRequestToList_tracks serial slotId request h ha).accounted_iff.2
    ⟨hans, fun k => ?_⟩
  -- the new number is above all that are settled
  have hnew : s.issued ∉ s.settled := fun hmem => Nat.lt_irrefl _ (h.settled_lt _ hmem)
  have hold : (l k).map (Function.update s.requestOf a s.issued) = (l k).map s.requestOf := by
    refine List.map_congr_left fun b hb => Function.update_of_ne ?_ _ _
    rintro rfl
    exact h.not_mem ha k hb
  rw [addRequestToList_requestOf]
  change _ = (Function.update s.added _ _ k).filter (fun n => n ∉ s.settled)
  by_cases hk : k = pendingRequestsHook simCount slotId
  · subst hk
    simp [pushed, hold, hpend, hnew]
  · simp [pushed, hk, hold, hpend]

/-- Erasing a cell erases its request number, when the number is only its own. -/
theorem map_erase_eq_filter {cells : List ℕ} {f : ℕ → ℕ} {t : ℕ} (hnd : cells.Nodup)
    (hinj : ∀ a ∈ cells, f a = f t → a = t) :
    (cells.erase t).map f = (cells.map f).filter (fun n => n ≠ f t) := by
  rw [hnd.erase_eq_filter, List.filter_map]
  congr 1
  refine List.filter_congr fun a ha => ?_
  by_cases hat : a = t
  · simp [hat]
  · have hf : f a ≠ f t := fun hf => hat (hinj a ha hf)
    simp [hat, hf]

theorem finish_unlink_accounted (h : Tracks simCount s l) (hacc : s.Accounted) {k : Fin 4}
    {t : ℕ} {place : Place ℕ} (hplace : predecessor t .head (l k) = some place) :
    (finish c (unlink s k t place) t).Accounted := by
  obtain ⟨hans, hpend⟩ := h.accounted_iff.1 hacc
  obtain ⟨-, hof, hadded, hanswered, hsettled⟩ := unlink_record (s := s) k t place
  have ht : t ∈ l k := (predecessor_isSome _).1 (by rw [hplace]; rfl)
  -- what is linked is not settled, so the answer that follows is the first
  have hopen : s.requestOf t ∉ s.settled := by
    have hmem : s.requestOf t ∈ (l k).map s.requestOf := List.mem_map_of_mem ht
    rw [hpend k, List.mem_filter] at hmem
    simpa using hmem.2
  refine (finish_unlink_tracks h hplace).accounted_iff.2 ⟨?_, fun j => ?_⟩
  · simp only [finish, hof, hanswered]
    split
    · exact List.nodup_cons.2 ⟨fun hmem => hopen (h.answered_settled _ hmem), hans⟩
    · exact hans
  · simp only [finish, hof, hadded, hsettled]
    rw [map_erase_eq_filter (h.nodup j) fun a ha => h.requestOf_inj j k a ha t ht, hpend,
      List.filter_filter]
    refine List.filter_congr fun n _ => ?_
    simp [not_or]

/-- A step that leaves the answer to the vendor keeps the accounting. -/
theorem step_accounted {s s' : State} {e : Event} (h : s.WellFormed simCount)
    (hacc : s.Accounted) (he : e.LeavesAnswerToVendor)
    (hstep : step c mtkCommandStart simCount s e = some s') : s'.Accounted := by
  obtain ⟨l, hl⟩ := h
  rcases step_cases hstep with ⟨serial, slotId, request, a, ha, -, rfl⟩ |
    ⟨serial, slotId, request, a, s₁, ha, hno, rfl, herr⟩ |
    ⟨-, ⟨t, strange, rfl⟩ | ⟨t, strange, rfl⟩ | ⟨inflight, rfl⟩⟩
  · exact addRequestToList_accounted hl hacc serial slotId request ha
  · exact absurd he hno
  · rcases onRequestAck_cases hl t strange with heq | ⟨a, heq⟩
    · rwa [heq]
    · rw [heq]
      exact (markAck_tracks hl a).accounted_iff.2 (hl.accounted_iff.1 hacc)
  · rcases onRequestComplete_cases (c := c) hl t strange with heq | ⟨k, a, place, hplace, heq⟩
    · rwa [heq]
    · rw [heq]
      exact finish_unlink_accounted hl hacc hplace
  · exact ⟨hacc.answered_once, hacc.pending⟩

/-- An entry point that answers its own request breaks the accounting: the request is
answered and still in its list. -/
theorem step_not_accounted {s s' : State} {e : Event} (h : s.WellFormed simCount)
    (he : ¬ e.LeavesAnswerToVendor)
    (hstep : step c mtkCommandStart simCount s e = some s') : ¬ s'.Accounted := by
  obtain ⟨l, hl⟩ := h
  rcases step_cases hstep with ⟨serial, slotId, request, a, ha, hyes, rfl⟩ |
    ⟨serial, slotId, request, a, s₁, ha, -, rfl, herr⟩ | ⟨hyes, -⟩
  · exact absurd hyes he
  · intro hacc
    have htracks : Tracks simCount
        (addRequestToList c mtkCommandStart simCount s serial slotId request a) _ :=
      addRequestToList_tracks serial slotId request hl ha
    have hmem : a ∈ pushed l (pendingRequestsHook simCount slotId) a
        (pendingRequestsHook simCount slotId) := mem_pushed.2 (Or.inl ⟨rfl, rfl⟩)
    have hpend := ((sendErrorResponse_tracks htracks hmem herr).accounted_iff.1 hacc).2
      (pendingRequestsHook simCount slotId)
    -- its cell is still linked, so its number would have to be unsettled
    have hlisted := List.mem_map_of_mem (f := s'.requestOf) hmem
    rw [hpend, List.mem_filter] at hlisted
    rw [sendErrorResponse_eq herr] at hlisted
    simp at hlisted
  · exact absurd hyes he

end Lemmas

/-! ## Main results -/

/-- A token that no allocated request has, completed or acknowledged, changes nothing. -/
def State.UnknownTokensInert (c : Commands) (simCount : ℕ) (s : State) : Prop :=
  ∀ (t : Option ℕ) (strange : ℕ), (∀ a, t = some a → s.heap a = none) →
    onRequestComplete c simCount s t strange = s ∧ onRequestAck simCount s t strange = s

/-- Acknowledging any token keeps every list as it is. -/
def State.AcksKeepLists (simCount : ℕ) (s : State) : Prop :=
  ∀ (t : Option ℕ) (strange : ℕ) (k : Fin 4) (l : List ℕ),
    (onRequestAck simCount s t strange).Linked k l ↔ s.Linked k l

section Main

variable (c : Commands) (mtkCommandStart simCount : ℕ)

theorem unknownTokensInert_of_wellFormed {s : State} (h : s.WellFormed simCount) :
    s.UnknownTokensInert c simCount := by
  obtain ⟨l, hl⟩ := h
  intro t strange ht
  refine ⟨?_, by simp only [onRequestAck, check_unknown hl ht]⟩
  unfold onRequestComplete
  rw [check_unknown hl ht]
  cases t <;> simp

theorem acksKeepLists_of_wellFormed {s : State} (h : s.WellFormed simCount) :
    s.AcksKeepLists simCount := by
  obtain ⟨l, hl⟩ := h
  intro t strange k cells
  rcases onRequestAck_cases hl t strange with heq | ⟨a, heq⟩
  · rw [heq]
  · rw [heq]
    unfold State.Linked
    rw [markAck_next]
    rfl

/-- The lists stay well formed along every run. -/
theorem always_wellFormed (es : List Event) :
    Always (step c mtkCommandStart simCount) (State.WellFormed simCount) State.init es :=
  always_of_step (fun _ _ _ h hs => step_wellFormed h hs) (wellFormed_init simCount) es

theorem always_accounted_iff (es : List Event) :
    Always (step c mtkCommandStart simCount) State.Accounted State.init es ↔
      Meets (step c mtkCommandStart simCount) (fun _ e => e.LeavesAnswerToVendor)
        State.init es := by
  have hinit : State.init.WellFormed simCount ∧ State.init.Accounted :=
    ⟨wellFormed_init simCount, accounted_init⟩
  refine always_iff_meets (fun (s : State) (h : s.WellFormed simCount ∧ s.Accounted) => h.2)
    (fun s e s' h he hs => ?_) (fun s e s' h he hs => ?_) hinit es
  · exact ⟨step_wellFormed h.1 hs, step_accounted h.1 h.2 he hs⟩
  · exact step_not_accounted h.1 he hs

/-- **When the accounting holds.**  For every table, every number of SIMs and every run
from the start: the accounting holds in all states visited exactly when no entry point
answers a request it has added.  Unknown tokens change nothing, and acknowledgements no
list, in any case. -/
theorem pending_accounting (es : List Event) :
    (Always (step c mtkCommandStart simCount) State.Accounted State.init es ↔
      Meets (step c mtkCommandStart simCount) (fun _ e => e.LeavesAnswerToVendor)
        State.init es) ∧
    Always (step c mtkCommandStart simCount) (State.UnknownTokensInert c simCount)
      State.init es ∧
    Always (step c mtkCommandStart simCount) (State.AcksKeepLists simCount) State.init es :=
  ⟨always_accounted_iff c mtkCommandStart simCount es,
    (always_wellFormed c mtkCommandStart simCount es).mono fun _ =>
      unknownTokensInert_of_wellFormed c simCount,
    (always_wellFormed c mtkCommandStart simCount es).mono fun _ =>
      acksKeepLists_of_wellFormed simCount⟩

end Main

/-- `getSignalStrength` answers its request itself: it stays in the list, answered. -/
theorem getSignalStrength_not_accounted :
    ¬ ∀ (c : Commands) (mtkCommandStart simCount : ℕ) (es : List Event),
      Always (step c mtkCommandStart simCount) State.Accounted State.init es := by
  intro hall
  have hstep : (step buildCommands 0 2 State.init (.request .getSignalStrength
      (.refused .signalStrength) (some 1) 7 0 (some .requestNotSupported))).isSome := by
    decide +kernel
  obtain ⟨s', hs'⟩ := Option.isSome_iff_exists.1 hstep
  exact step_not_accounted (wellFormed_init 2) (by decide) hs'
    ((hall buildCommands 0 2 [_]).2 s' hs').head

end Ril.Pending
