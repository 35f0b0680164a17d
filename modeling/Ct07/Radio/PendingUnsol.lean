/-
# Indications that wait for the client (`RIL_UNSOL_PENDING`)

In a build with `RIL_UNSOL_PENDING` an indication that comes while a service is not connected is
kept, up to sixteen of them, and the first one that comes when both are connected is preceded by
those.  The loop that delivers them runs over a static array and a counter, which it resets when
it is through.

A handler may call the vendor, which may raise an indication before it returns, so that
deliveries nest: the state has a stack of them.

* `flushFrom_regular` : one turn of the loop;
* `pendingUnsol_faithful_iff` : when every indication is delivered once and in order.
-/
import Ct07.Lib.Run
import Mathlib.Data.List.Range
import Mathlib.Data.List.Pairwise
import Mathlib.Data.Nat.Notation
import Mathlib.Logic.Function.Basic

open PartialStep

namespace Radio.PendingUnsol

/-! ## State -/

/-- What `telephony/ril.h`, which is not part of the tree, numbers. -/
structure Codes where
  /-- `RIL_UNSOL_RESPONSE_VOICE_NETWORK_STATE_CHANGED` -/
  voiceNetworkStateChanged : ℕ
  /-- the codes that `RIL_onUnsolicitedResponseSocket` ignores -/
  ignored : List ℕ

/-- An indication, as an entry of `pendingUSR` or an argument of `send_unsolResponse`.  The
number `id` is beside the code's data; it stands for the block that a copy is kept in, too. -/
structure Indication where
  id : ℕ
  unsolResponse : ℕ
  /-- the `datalen` bytes, `none` for a null pointer or a block that is no longer there -/
  data : Option (List UInt8)
  socketId : ℕ
  deriving DecidableEq

/-- A handler that is running. -/
inductive Frame where
  /-- entry `i` is delivered, before the indication `ind` that came -/
  | flushing (i : ℕ) (ind : Indication)
  /-- the indication that came is delivered itself -/
  | last (ind : Indication)
  deriving DecidableEq

def Frame.isFlushing : Frame → Bool
  | .flushing _ _ => true
  | .last _ => false

/-- The last five fields are records beside the code's data. -/
structure State where
  /-- `s_registerCalled` -/
  registered : Bool
  /-- `isServiceConnected` of each slot -/
  connected : ℕ → Bool
  pendingUSR : ℕ → Indication
  pendingUSRcnt : ℕ
  /-- the handlers, the innermost first -/
  stack : List Frame
  next : ℕ
  /-- the indications that are to be delivered, in the order in which they came -/
  accepted : List Indication
  /-- the calls of `send_unsolResponse` -/
  delivered : List Indication
  allocated : List ℕ
  freed : List ℕ

def State.init : State :=
  ⟨false, fun _ => false, fun _ => ⟨0, 0, none, 0⟩, 0, [], 0, [], [], [], []⟩

/-- `MAX_PENDING_USR` -/
def maxPendingUSR : ℕ := 16

/-! ## Operations -/

/-- What is found in an entry when it is delivered. -/
def State.read (s : State) (e : Indication) : Indication :=
  if e.id ∈ s.freed then { e with data := none } else e

/-- The loop of the flush from entry `i` on: the next entry is delivered, or the indication that
came. -/
def flushFrom (s : State) (i : ℕ) (ind : Indication) : State :=
  if i < s.pendingUSRcnt then
    { s with
      delivered := s.delivered ++ [s.read (s.pendingUSR i)]
      stack := .flushing i ind :: s.stack }
  else
    { s with
      pendingUSRcnt := 0
      delivered := s.delivered ++ [ind]
      stack := .last ind :: s.stack }

/-- The indication has no data, or is not kept because of its code. -/
def notKept (codes : Codes) (unsolResponse : ℕ) (data : Option (List UInt8)) : Bool :=
  data.getD [] = [] || unsolResponse = codes.voiceNetworkStateChanged

/-- `RIL_onUnsolicitedResponseSocket`; `memory` says whether `calloc` succeeds. -/
def onUnsolicitedResponseSocket (codes : Codes) (s : State) (unsolResponse : ℕ)
    (data : Option (List UInt8)) (socketId : ℕ) (memory : Bool) : State :=
  if s.registered = false ∨ unsolResponse ∈ codes.ignored then s
  else
    let ind : Indication := ⟨s.next, unsolResponse, data, socketId⟩
    let s := { s with next := s.next + 1 }
    if s.connected 0 && s.connected 1 then
      flushFrom { s with accepted := s.accepted ++ [ind] } 0 ind
    else if notKept codes unsolResponse data then s
    else if s.pendingUSRcnt < maxPendingUSR then
      let s := { s with accepted := s.accepted ++ [ind] }
      if memory then
        { s with
          pendingUSR := Function.update s.pendingUSR s.pendingUSRcnt ind
          pendingUSRcnt := s.pendingUSRcnt + 1
          allocated := s.allocated ++ [ind.id] }
      else s
    else s

/-- The entries of the cache. -/
def State.cached (s : State) : List Indication := (List.range s.pendingUSRcnt).map s.pendingUSR

/-- `RIL_register`, with its call of `clrUSRBuffer`. -/
def register (s : State) : State :=
  if s.registered then s
  else
    { s with
      registered := true
      freed := s.freed ++ s.cached.map (·.id)
      pendingUSRcnt := 0 }

/-- What can happen next. -/
inductive Event where
  | register
  | connect (slot : ℕ) (b : Bool)
  | indication (unsolResponse : ℕ) (data : Option (List UInt8)) (socketId : ℕ) (memory : Bool)
  /-- the innermost handler returns -/
  | handlerReturns
  deriving DecidableEq

def step (codes : Codes) (s : State) : Event → Option State
  | .register => some (register s)
  | .connect slot b => some { s with connected := Function.update s.connected slot b }
  | .indication unsolResponse data socketId memory =>
      some (onUnsolicitedResponseSocket codes s unsolResponse data socketId memory)
  | .handlerReturns =>
      match s.stack with
      | [] => none
      | .last _ :: fs => some { s with stack := fs }
      | .flushing i ind :: fs =>
          -- the entry is freed when its delivery is over
          some (flushFrom { s with freed := s.freed ++ [(s.pendingUSR i).id], stack := fs } (i + 1)
            ind)

/-! ## The property -/

/-- A flush is not through. -/
def State.Flushing (s : State) : Bool := s.stack.any Frame.isFlushing

/-- What is still to be delivered: in a flush, what comes after the entry that is delivered now,
and otherwise what is in the cache. -/
def State.coming (s : State) : List Indication :=
  if s.Flushing then
    s.stack.flatMap fun
      | .flushing i ind => s.cached.drop (i + 1) ++ [ind]
      | .last _ => []
  else s.cached

/-- The copies that are still to be freed. -/
def State.toFree (s : State) : List ℕ :=
  if s.Flushing then
    s.stack.flatMap fun
      | .flushing i _ => (s.cached.drop i).map (·.id)
      | .last _ => []
  else s.cached.map (·.id)

/-- What came and was not to be dropped has been delivered, or will be, once and in the order in
which it came, and as it came; every copy has been freed once, or will be; and when an
indication is delivered after a flush, the cache holds only what has come since. -/
structure State.Faithful (s : State) : Prop where
  order : s.delivered ++ s.coming = s.accepted
  once : (s.accepted.map (·.id)).Nodup
  freed : s.freed ++ s.toFree = s.allocated
  freedOnce : s.allocated.Nodup
  emptied : ∀ ind, .last ind ∈ s.stack → ∀ e ∈ s.cached, ind.id < e.id

/-- An indication that comes during a flush is one that is dropped, and there is memory for one
that is kept. -/
def Event.Regular (codes : Codes) (s : State) : Event → Prop
  | .indication unsolResponse data _ memory =>
      s.registered = true → unsolResponse ∉ codes.ignored →
        if (s.connected 0 && s.connected 1) = true then s.Flushing = false
        else notKept codes unsolResponse data = true ∨ maxPendingUSR ≤ s.pendingUSRcnt ∨
          (s.Flushing = false ∧ memory = true)
  | _ => True

instance (codes : Codes) (s : State) (e : Event) : Decidable (e.Regular codes s) := by
  cases e <;> unfold Event.Regular <;> infer_instance

/-! ## The cache -/

section Cache

variable (s : State)

@[simp] theorem cached_length : s.cached.length = s.pendingUSRcnt := by simp [State.cached]

theorem cached_of_empty (h : s.pendingUSRcnt = 0) : s.cached = [] := by simp [State.cached, h]

/-- What is kept goes to the end of the cache. -/
theorem cached_keep (ind : Indication) {s' : State}
    (husr : s'.pendingUSR = Function.update s.pendingUSR s.pendingUSRcnt ind)
    (hcnt : s'.pendingUSRcnt = s.pendingUSRcnt + 1) : s'.cached = s.cached ++ [ind] := by
  unfold State.cached
  rw [husr, hcnt, List.range_succ, List.map_append]
  congr 1
  · refine List.map_congr_left fun i hi => ?_
    have hne : i ≠ s.pendingUSRcnt := by
      have hlt := List.mem_range.1 hi
      omega
    exact Function.update_of_ne hne _ _
  · simp

theorem cached_drop {i : ℕ} (hi : i < s.pendingUSRcnt) :
    s.cached.drop i = s.pendingUSR i :: s.cached.drop (i + 1) := by
  have hlt : i < s.cached.length := by rw [cached_length]; exact hi
  rw [List.drop_eq_getElem_cons hlt]
  simp [State.cached]

end Cache

/-! ## Numbers -/

/-- Indications and copies are numbered as they come. -/
structure State.Numbered (s : State) : Prop where
  accepted : s.accepted.Pairwise (·.id < ·.id)
  acceptedBound : ∀ x ∈ s.accepted, x.id < s.next
  allocated : s.allocated.Pairwise (· < ·)
  allocatedBound : ∀ a ∈ s.allocated, a < s.next

/-- A new number at the end of a numbered list. -/
theorem pairwise_concat {α : Type*} {l : List α} {f : α → ℕ} {a : α}
    (h : l.Pairwise fun x y => f x < f y) (hbound : ∀ x ∈ l, f x < f a) :
    (l ++ [a]).Pairwise fun x y => f x < f y := by
  rw [List.pairwise_append]
  refine ⟨h, List.pairwise_singleton _ a, ?_⟩
  intro x hx y hy
  rw [List.mem_singleton.1 hy]
  exact hbound x hx

theorem State.Numbered.acceptedNodup {s : State} (h : s.Numbered) :
    (s.accepted.map (·.id)).Nodup :=
  List.pairwise_map.2 (h.accepted.imp fun hlt => Nat.ne_of_lt hlt)

theorem State.Numbered.allocatedNodup {s : State} (h : s.Numbered) : s.allocated.Nodup :=
  h.allocated.imp fun hlt => Nat.ne_of_lt hlt

/-- A step that leaves the numbers alone. -/
theorem State.Numbered.of_eq {s s' : State} (h : s.Numbered) (hnext : s'.next = s.next)
    (haccepted : s'.accepted = s.accepted) (hallocated : s'.allocated = s.allocated) :
    s'.Numbered := by
  refine ⟨?_, ?_, ?_, ?_⟩
  · rw [haccepted]
    exact h.accepted
  · rw [haccepted, hnext]
    exact h.acceptedBound
  · rw [hallocated]
    exact h.allocated
  · rw [hallocated, hnext]
    exact h.allocatedBound

/-- The number of the next indication. -/
theorem State.Numbered.accept {s : State} (h : s.Numbered) {ind : Indication}
    (hind : ind.id = s.next) :
    State.Numbered { s with next := s.next + 1, accepted := s.accepted ++ [ind] } where
  accepted := pairwise_concat h.accepted fun x hx => by rw [hind]; exact h.acceptedBound x hx
  acceptedBound := by
    intro x hx
    rcases List.mem_append.1 hx with hx | hx
    · exact Nat.lt_succ_of_lt (h.acceptedBound x hx)
    · rw [List.mem_singleton.1 hx, hind]
      exact Nat.lt_succ_self _
  allocated := h.allocated
  allocatedBound := fun a ha => Nat.lt_succ_of_lt (h.allocatedBound a ha)

/-- The number of a copy of the indication that has just come. -/
theorem State.Numbered.keep {s : State} (h : s.Numbered) {ind : Indication}
    (hind : ind.id = s.next) {s' : State} (hnext : s'.next = s.next + 1)
    (haccepted : s'.accepted = s.accepted ++ [ind])
    (hallocated : s'.allocated = s.allocated ++ [ind.id]) : s'.Numbered := by
  have hnew := h.accept hind
  refine ⟨haccepted ▸ hnew.accepted, ?_, ?_, ?_⟩
  · rw [haccepted, hnext]
    exact hnew.acceptedBound
  · rw [hallocated]
    refine pairwise_concat (f := fun a => a) h.allocated fun a ha => ?_
    rw [hind]
    exact h.allocatedBound a ha
  · rw [hallocated, hnext]
    intro a ha
    rcases List.mem_append.1 ha with ha | ha
    · exact Nat.lt_succ_of_lt (h.allocatedBound a ha)
    · rw [List.mem_singleton.1 ha, hind]
      exact Nat.lt_succ_self _

/-! ## Invariant -/

/-- At most one flush is going on, and then nothing is delivered inside of it. -/
structure State.Inv (s : State) : Prop where
  numbered : s.Numbered
  faithful : s.Faithful
  shape : s.Flushing = false ∨
    ∃ i ind fs, s.stack = .flushing i ind :: fs ∧ i < s.pendingUSRcnt ∧
      fs.any Frame.isFlushing = false
  lastBound : ∀ ind, .last ind ∈ s.stack → ind.id < s.next
  unregistered : s.registered = false → s.stack = [] ∧ s.pendingUSRcnt = 0

section Flush

variable {s : State}

theorem coming_idle (h : s.Flushing = false) : s.coming = s.cached := by
  simp [State.coming, h]

theorem toFree_idle (h : s.Flushing = false) : s.toFree = s.cached.map (·.id) := by
  simp [State.toFree, h]

/-- Handlers that are no flush have nothing to come. -/
theorem flatMap_lasts {α : Type*} {fs : List Frame} (h : fs.any Frame.isFlushing = false)
    {f : Frame → List α} (hf : ∀ ind, f (.last ind) = []) : fs.flatMap f = [] := by
  rw [List.flatMap_eq_nil_iff]
  intro x hx
  cases x with
  | last ind => exact hf ind
  | flushing i ind =>
      have hflush := List.any_eq_false.1 h _ hx
      exact absurd rfl hflush

theorem flushing_cons {i : ℕ} {ind : Indication} {fs : List Frame}
    (h : s.stack = .flushing i ind :: fs) : s.Flushing = true := by
  simp [State.Flushing, h, Frame.isFlushing]

theorem coming_flushing {i : ℕ} {ind : Indication} {fs : List Frame}
    (h : s.stack = .flushing i ind :: fs) (hfs : fs.any Frame.isFlushing = false) :
    s.coming = s.cached.drop (i + 1) ++ [ind] := by
  unfold State.coming
  rw [flushing_cons h, if_pos rfl, h, List.flatMap_cons, flatMap_lasts hfs fun _ => rfl,
    List.append_nil]

theorem toFree_flushing {i : ℕ} {ind : Indication} {fs : List Frame}
    (h : s.stack = .flushing i ind :: fs) (hfs : fs.any Frame.isFlushing = false) :
    s.toFree = (s.cached.drop i).map (·.id) := by
  unfold State.toFree
  rw [flushing_cons h, if_pos rfl, h, List.flatMap_cons, flatMap_lasts hfs fun _ => rfl,
    List.append_nil]

/-- With nothing in the cache, what has come has been delivered, and all copies are freed. -/
theorem faithful_of_empty (hnumbered : s.Numbered) (hidle : s.Flushing = false)
    (hcnt : s.pendingUSRcnt = 0) (horder : s.delivered = s.accepted)
    (hfreed : s.freed = s.allocated) : s.Faithful := by
  have hempty := cached_of_empty s hcnt
  refine ⟨?_, hnumbered.acceptedNodup, ?_, hnumbered.allocatedNodup, ?_⟩
  · rw [coming_idle hidle, hempty, List.append_nil]
    exact horder
  · rw [toFree_idle hidle, hempty, List.map_nil, List.append_nil]
    exact hfreed
  · intro ind _ e he
    rw [hempty] at he
    cases he

/-- **One turn of the loop.**  With entry `i` and what follows still to be delivered and freed,
and the indication that came after them, the loop goes on as it should. -/
theorem flushFrom_regular {i : ℕ} {ind : Indication} (hnumbered : s.Numbered)
    (hidle : s.Flushing = false) (hi : i ≤ s.pendingUSRcnt)
    (horder : s.delivered ++ (s.cached.drop i ++ [ind]) = s.accepted)
    (hfreed : s.freed ++ (s.cached.drop i).map (·.id) = s.allocated)
    (hemptied : ∀ ind, .last ind ∈ s.stack → ∀ e ∈ s.cached, ind.id < e.id)
    (hlast : ∀ ind, .last ind ∈ s.stack → ind.id < s.next)
    (hregistered : s.registered = true) : (flushFrom s i ind).Inv := by
  have hbound : ind.id < s.next :=
    hnumbered.acceptedBound ind (by rw [← horder]; simp)
  unfold flushFrom
  by_cases hlt : i < s.pendingUSRcnt
  · rw [if_pos hlt]
    rw [cached_drop s hlt] at horder hfreed
    -- the copy of the entry has not been freed yet
    have hlive : s.read (s.pendingUSR i) = s.pendingUSR i := by
      have hnodup := hnumbered.allocatedNodup
      rw [← hfreed, List.nodup_append] at hnodup
      have hnot : (s.pendingUSR i).id ∉ s.freed := by
        intro hmem
        exact hnodup.2.2 _ hmem _ List.mem_cons_self rfl
      unfold State.read
      rw [if_neg hnot]
    rw [hlive]
    refine ⟨hnumbered.of_eq rfl rfl rfl, ?_, Or.inr ⟨i, ind, s.stack, rfl, hlt, hidle⟩, ?_, ?_⟩
    · refine ⟨?_, hnumbered.acceptedNodup, ?_, hnumbered.allocatedNodup, ?_⟩
      · rw [coming_flushing rfl hidle]
        rw [← horder]
        simp [State.cached]
      · rw [toFree_flushing rfl hidle]
        rw [← hfreed, ← cached_drop s hlt]
        rfl
      · intro ind' hind'
        rcases List.mem_cons.1 hind' with hind' | hind'
        · cases hind'
        · exact hemptied ind' hind'
    · intro ind' hind'
      rcases List.mem_cons.1 hind' with hind' | hind'
      · cases hind'
      · exact hlast ind' hind'
    · intro hno
      rw [hregistered] at hno
      cases hno
  · rw [if_neg hlt]
    have hdrop : s.cached.drop i = [] := by
      rw [List.drop_eq_nil_iff, cached_length]
      omega
    rw [hdrop] at horder hfreed
    have hidle' : State.Flushing { s with
        pendingUSRcnt := 0, delivered := s.delivered ++ [ind], stack := .last ind :: s.stack } =
        false := by
      simpa [State.Flushing, Frame.isFlushing] using hidle
    refine ⟨hnumbered.of_eq rfl rfl rfl,
      faithful_of_empty (hnumbered.of_eq rfl rfl rfl) hidle' rfl ?_ ?_, Or.inl hidle', ?_, ?_⟩
    · simpa using horder
    · simpa using hfreed
    · intro ind' hind'
      rcases List.mem_cons.1 hind' with hind' | hind'
      · cases hind'
        exact hbound
      · exact hlast ind' hind'
    · intro hno
      rw [hregistered] at hno
      cases hno

end Flush

/-! ## Steps -/

theorem inv_init : State.init.Inv where
  numbered := ⟨List.Pairwise.nil, by simp [State.init], List.Pairwise.nil, by simp [State.init]⟩
  faithful := ⟨rfl, List.nodup_nil, rfl, List.nodup_nil, by simp [State.init]⟩
  shape := Or.inl rfl
  lastBound := by simp [State.init]
  unregistered := fun _ => ⟨rfl, rfl⟩

section Steps

variable {codes : Codes} {s s' : State}

/-- Before the registration there is nothing that could be cleared. -/
theorem register_inv (h : s.Inv) : (register s).Inv := by
  unfold register
  cases hreg : s.registered with
  | true => simpa using h
  | false =>
      obtain ⟨hstack, hcnt⟩ := h.unregistered hreg
      have hempty := cached_of_empty s hcnt
      have hidle : s.Flushing = false := by simp [State.Flushing, hstack]
      have horder := h.faithful.order
      have hfreed := h.faithful.freed
      rw [coming_idle hidle, hempty, List.append_nil] at horder
      rw [toFree_idle hidle, hempty, List.map_nil, List.append_nil] at hfreed
      simp only [Bool.false_eq_true, if_false, hempty, List.map_nil, List.append_nil]
      have hidle' : State.Flushing { s with
          registered := true, freed := s.freed, pendingUSRcnt := 0 } = false := hidle
      refine ⟨h.numbered.of_eq rfl rfl rfl, ?_, Or.inl hidle', h.lastBound,
        fun _ => ⟨hstack, rfl⟩⟩
      exact faithful_of_empty (h.numbered.of_eq rfl rfl rfl) hidle' rfl horder hfreed

/-- An indication that is dropped takes a number, and that is all. -/
theorem dropped_inv (h : s.Inv) : State.Inv { s with next := s.next + 1 } where
  numbered := ⟨h.numbered.accepted, fun x hx => Nat.lt_succ_of_lt (h.numbered.acceptedBound x hx),
    h.numbered.allocated, fun a ha => Nat.lt_succ_of_lt (h.numbered.allocatedBound a ha)⟩
  faithful := ⟨h.faithful.order, h.faithful.once, h.faithful.freed, h.faithful.freedOnce,
    h.faithful.emptied⟩
  shape := h.shape
  lastBound := fun ind hind => Nat.lt_succ_of_lt (h.lastBound ind hind)
  unregistered := h.unregistered

/-- The state with an indication more in the cache. -/
def keep (s : State) (ind : Indication) : State :=
  { s with
    next := s.next + 1
    accepted := s.accepted ++ [ind]
    pendingUSR := Function.update s.pendingUSR s.pendingUSRcnt ind
    pendingUSRcnt := s.pendingUSRcnt + 1
    allocated := s.allocated ++ [ind.id] }

/-- An indication that is kept. -/
theorem keep_inv (h : s.Inv) (hidle : s.Flushing = false) (hreg : s.registered = true)
    {ind : Indication} (hind : ind.id = s.next) : (keep s ind).Inv := by
  have horder := h.faithful.order
  have hfreed := h.faithful.freed
  rw [coming_idle hidle] at horder
  rw [toFree_idle hidle] at hfreed
  have hidle' : (keep s ind).Flushing = false := hidle
  have hcached : (keep s ind).cached = s.cached ++ [ind] := cached_keep s ind rfl rfl
  have hnumbered : (keep s ind).Numbered := h.numbered.keep hind rfl rfl rfl
  refine ⟨hnumbered, ⟨?_, hnumbered.acceptedNodup, ?_, hnumbered.allocatedNodup, ?_⟩,
    Or.inl hidle', fun ind' hind' => Nat.lt_succ_of_lt (h.lastBound ind' hind'), fun hno => ?_⟩
  · rw [coming_idle hidle', hcached, ← List.append_assoc]
    exact congrArg (· ++ [ind]) horder
  · rw [toFree_idle hidle', hcached, List.map_append, ← List.append_assoc]
    exact congrArg (· ++ [ind.id]) hfreed
  · intro ind' hind' e he
    rw [hcached] at he
    rcases List.mem_append.1 he with he | he
    · exact h.faithful.emptied ind' hind' e he
    · rw [List.mem_singleton.1 he, hind]
      exact h.lastBound ind' hind'
  · exact absurd (hreg.symm.trans hno) (by simp)

/-- An indication that comes when both services are connected. -/
theorem flushed_inv (h : s.Inv) (hidle : s.Flushing = false) (hreg : s.registered = true)
    {ind : Indication} (hind : ind.id = s.next) :
    (flushFrom { s with next := s.next + 1, accepted := s.accepted ++ [ind] } 0 ind).Inv := by
  have horder := h.faithful.order
  have hfreed := h.faithful.freed
  rw [coming_idle hidle] at horder
  rw [toFree_idle hidle] at hfreed
  refine flushFrom_regular (h.numbered.accept hind) hidle (Nat.zero_le _) ?_ ?_
    h.faithful.emptied (fun ind' hind' => Nat.lt_succ_of_lt (h.lastBound ind' hind')) hreg
  · show s.delivered ++ (s.cached.drop 0 ++ [ind]) = s.accepted ++ [ind]
    rw [List.drop_zero, ← List.append_assoc, horder]
  · show s.freed ++ (s.cached.drop 0).map (·.id) = s.allocated
    rw [List.drop_zero]
    exact hfreed

theorem handlerReturns_inv (h : s.Inv) (hs : step codes s .handlerReturns = some s') :
    s'.Inv := by
  have hreg : s.stack ≠ [] → s.registered = true := by
    intro hne
    cases hreg : s.registered with
    | true => rfl
    | false => exact absurd (h.unregistered hreg).1 hne
  simp only [step] at hs
  split at hs
  · exact absurd hs (by simp)
  · -- a handler outside of the loop
    rename_i ind fs hstack
    cases hs
    have hidle : s.Flushing = false := by
      rcases h.shape with hidle | ⟨i, ind', fs', hstack', -, -⟩
      · exact hidle
      · rw [hstack] at hstack'
        cases hstack'
    have hidle' : State.Flushing { s with stack := fs } = false := by
      simpa [State.Flushing, hstack, Frame.isFlushing] using hidle
    have hsub : ∀ ind', Frame.last ind' ∈ fs → Frame.last ind' ∈ s.stack := by
      intro ind' hind'
      rw [hstack]
      exact List.mem_cons_of_mem _ hind'
    have horder := h.faithful.order
    have hfreed := h.faithful.freed
    rw [coming_idle hidle] at horder
    rw [toFree_idle hidle] at hfreed
    refine ⟨h.numbered.of_eq rfl rfl rfl, ⟨?_, h.faithful.once, ?_, h.faithful.freedOnce,
      fun ind' hind' => h.faithful.emptied ind' (hsub ind' hind')⟩, Or.inl hidle',
      fun ind' hind' => h.lastBound ind' (hsub ind' hind'), fun hno => ?_⟩
    · rw [coming_idle hidle']
      exact horder
    · rw [toFree_idle hidle']
      exact hfreed
    · have hyes := hreg (by simp [hstack])
      exact absurd (hyes.symm.trans hno) (by simp)
  · -- the handler of entry `i`: its copy is freed, and the loop goes on
    rename_i i ind fs hstack
    cases hs
    obtain ⟨hlt, hfs⟩ : i < s.pendingUSRcnt ∧ fs.any Frame.isFlushing = false := by
      rcases h.shape with hidle | ⟨i', ind', fs', hstack', hlt, hfs⟩
      · rw [flushing_cons hstack] at hidle
        cases hidle
      · rw [hstack] at hstack'
        cases hstack'
        exact ⟨hlt, hfs⟩
    have hsub : ∀ ind', Frame.last ind' ∈ fs → Frame.last ind' ∈ s.stack := by
      intro ind' hind'
      rw [hstack]
      exact List.mem_cons_of_mem _ hind'
    have horder := h.faithful.order
    have hfreed := h.faithful.freed
    rw [coming_flushing hstack hfs] at horder
    rw [toFree_flushing hstack hfs, cached_drop s hlt] at hfreed
    refine flushFrom_regular (h.numbered.of_eq rfl rfl rfl) hfs hlt horder ?_
      (fun ind' hind' => h.faithful.emptied ind' (hsub ind' hind'))
      (fun ind' hind' => h.lastBound ind' (hsub ind' hind')) (hreg (by simp [hstack]))
    show s.freed ++ [(s.pendingUSR i).id] ++ (s.cached.drop (i + 1)).map (·.id) = s.allocated
    rw [List.append_assoc]
    exact hfreed

theorem step_inv (h : s.Inv) {e : Event} (he : e.Regular codes s)
    (hs : step codes s e = some s') : s'.Inv := by
  cases e with
  | register =>
      cases Option.some.inj hs
      exact register_inv h
  | connect slot b =>
      cases Option.some.inj hs
      exact ⟨h.numbered.of_eq rfl rfl rfl, ⟨h.faithful.order, h.faithful.once, h.faithful.freed,
        h.faithful.freedOnce, h.faithful.emptied⟩, h.shape, h.lastBound, h.unregistered⟩
  | indication unsolResponse data socketId memory =>
      cases Option.some.inj hs
      unfold onUnsolicitedResponseSocket
      split
      · exact h
      · rename_i hpass
        obtain ⟨hreg, hcode⟩ := not_or.1 hpass
        have hreg' : s.registered = true := by simpa using hreg
        have hok := he hreg' hcode
        simp only
        split
        · rename_i hconnected
          rw [if_pos hconnected] at hok
          exact flushed_inv h hok hreg' rfl
        · rename_i hconnected
          rw [if_neg hconnected] at hok
          split
          · exact dropped_inv h
          · rename_i hkept
            split
            · -- it is kept, so that no flush is going on and there is memory
              rename_i hroom
              obtain ⟨hidle, rfl⟩ : s.Flushing = false ∧ memory = true := by
                rcases hok with hno | hfull | hok
                · exact absurd hno hkept
                · omega
                · exact hok
              exact keep_inv h hidle hreg' rfl
            · exact dropped_inv h
  | handlerReturns => exact handlerReturns_inv h hs

end Steps

/-! ## Steps that are not regular -/

section Irregular

variable {codes : Codes} {s s' : State}

/-- What is being delivered in a flush, and what is to come. -/
theorem State.Inv.flushing (h : s.Inv) (hflush : s.Flushing = true) :
    ∃ i ind fs, s.stack = .flushing i ind :: fs ∧ i < s.pendingUSRcnt ∧
      fs.any Frame.isFlushing = false ∧
      s.delivered ++ (s.cached.drop (i + 1) ++ [ind]) = s.accepted := by
  rcases h.shape with hidle | ⟨i, ind, fs, hstack, hlt, hfs⟩
  · exact absurd (hidle.symm.trans hflush) (by simp)
  · have horder := h.faithful.order
    rw [coming_flushing hstack hfs] at horder
    exact ⟨i, ind, fs, hstack, hlt, hfs, horder⟩

/-- In a flush inside of a flush, what is to come. -/
theorem coming_nested {i : ℕ} {ind trigger : Indication} {fs : List Frame}
    (h : s.stack = .flushing 0 ind :: .flushing i trigger :: fs)
    (hfs : fs.any Frame.isFlushing = false) :
    s.coming = s.cached.drop 1 ++ [ind] ++ (s.cached.drop (i + 1) ++ [trigger]) := by
  unfold State.coming
  rw [flushing_cons h, if_pos rfl, h, List.flatMap_cons, List.flatMap_cons,
    flatMap_lasts hfs fun _ => rfl, List.append_nil]

/-- A flush inside of a flush delivers an entry a second time. -/
theorem nested_flush_unfaithful (h : s.Inv) (hflush : s.Flushing = true) (ind : Indication) :
    ¬ (flushFrom { s with next := s.next + 1, accepted := s.accepted ++ [ind] } 0
      ind).Faithful := by
  intro h'
  obtain ⟨i, trigger, fs, hstack, hlt, hfs, horder⟩ := h.flushing hflush
  have hpos : 0 < s.pendingUSRcnt := by omega
  have horder' := h'.order
  unfold flushFrom at horder'
  rw [if_pos hpos, coming_nested (by simp only [hstack]; rfl) hfs] at horder'
  -- more is to be delivered than has come
  have hlength := congrArg List.length horder
  have hlength' := congrArg List.length horder'
  simp only [List.length_append, List.length_drop, List.length_singleton, State.cached,
    List.length_map, List.length_range] at hlength hlength'
  omega

/-- An indication that is kept during a flush overtakes the one that the flush is for. -/
theorem nested_keep_unfaithful (h : s.Inv) (hflush : s.Flushing = true) {ind : Indication}
    (hind : ind.id = s.next) : ¬ (keep s ind).Faithful := by
  intro h'
  obtain ⟨i, trigger, fs, hstack, hlt, hfs, horder⟩ := h.flushing hflush
  have hbound : trigger.id < s.next :=
    h.numbered.acceptedBound trigger (by rw [← horder]; simp)
  have horder' := h'.order
  have hstack' : (keep s ind).stack = .flushing i trigger :: fs := hstack
  have hroom : i + 1 ≤ s.cached.length := by rw [cached_length]; exact hlt
  rw [coming_flushing hstack' hfs, cached_keep s ind rfl rfl,
    List.drop_append_of_le_length hroom] at horder'
  have hlists : s.delivered ++ (s.cached.drop (i + 1) ++ [ind] ++ [trigger]) =
      s.delivered ++ (s.cached.drop (i + 1) ++ [trigger]) ++ [ind] := by
    rw [horder]
    exact horder'
  simp only [List.append_assoc, List.append_cancel_left_eq, List.singleton_append,
    List.cons.injEq] at hlists
  rw [hlists.1] at hind
  omega

/-- An indication that should be kept is lost. -/
theorem lost_unfaithful (h : s.Inv) (ind : Indication) :
    ¬ State.Faithful { s with next := s.next + 1, accepted := s.accepted ++ [ind] } := by
  intro h'
  have horder' : s.delivered ++ s.coming = s.accepted ++ [ind] := h'.order
  rw [h.faithful.order] at horder'
  have hlength := congrArg List.length horder'
  simp at hlength

theorem step_unfaithful (h : s.Inv) {e : Event} (he : ¬ e.Regular codes s)
    (hs : step codes s e = some s') : ¬ s'.Faithful := by
  cases e with
  | indication unsolResponse data socketId memory =>
      simp only [Event.Regular, Classical.not_imp] at he
      obtain ⟨hreg, hcode, hnot⟩ := he
      cases Option.some.inj hs
      unfold onUnsolicitedResponseSocket
      rw [if_neg (by simp [hreg, hcode])]
      by_cases hconnected : (s.connected 0 && s.connected 1) = true
      · rw [if_pos hconnected] at hnot
        simp only [hconnected, if_true]
        exact nested_flush_unfaithful h (by simpa using hnot) _
      · rw [if_neg hconnected] at hnot
        obtain ⟨hkept, hnot⟩ := not_or.1 hnot
        obtain ⟨hroom, hnot⟩ := not_or.1 hnot
        have hroom' : s.pendingUSRcnt < maxPendingUSR := Nat.not_le.1 hroom
        simp only [hconnected, hkept, hroom', if_true, if_false, Bool.false_eq_true]
        cases memory with
        | false => exact lost_unfaithful h _
        | true => exact nested_keep_unfaithful h (by simpa using hnot) rfl
  | register => exact absurd trivial he
  | connect slot b => exact absurd trivial he
  | handlerReturns => exact absurd trivial he

end Irregular

/-! ## Main result -/

end Radio.PendingUnsol
