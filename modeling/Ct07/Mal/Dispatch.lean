/-
# MAL requests in flight

`malServerLoop` hands each frame to `malDispatch`, which runs on the same thread: it
takes a slot of `s_malInflight`, calls the vendor, waits for the completion of the
token, retries a failed command, and answers.  The vendor completes tokens on threads
of its own, in two steps: `malClaim` finds the slot of the token, and `malComplete`
puts the result into the slot.

The state has the slots, what the server thread is doing, and the claimed results on
their way to `malComplete`.  Beside it stands a record of the frames dispatched, the
answers sent, and the completions that were claimed.  Answer frames are taken to be
allocated and written.
-/
import Mathlib.Data.List.FinRange
import Ct07.Lib.Run
import Ct07.Mal.Frame
import Ct07.Mal.Routing

open PartialStep Ril

namespace Mal.Dispatch

/-! ## Constants -/

/-- `RIL_REQUEST_AT_COMMAND_WITH_PROXY`. -/
def rilRequestAtCommandWithProxy : UInt32 := 2106

/-- `MAL_MAX_INFLIGHT`. -/
abbrev malMaxInflight : ℕ := 16

/-- `MAL_MAX_ATTEMPTS`. -/
def malMaxAttempts : ℕ := 10

/-- `RIL_E_GENERIC_FAILURE`. -/
def rilEGenericFailure : UInt32 := 2

/-- `RIL_E_NO_MEMORY`. -/
def rilENoMemory : UInt32 := 37

/-! ## State -/

/-- An entry of `s_malInflight`.  `text` is empty where the code has `NULL`.  The last
three fields are not in the code: the number of the request that has the slot, and the
completions that `err` and `text` were taken from. -/
structure Slot where
  inUse : Bool
  pRI : Option ℕ
  serial : UInt32
  simId : UInt32
  cmd : Option (List UInt8)
  done : Bool
  err : UInt32
  text : List UInt8
  request : ℕ
  errFrom : Option ℕ
  textFrom : Option ℕ
  deriving DecidableEq

/-- A slot of a zeroed `s_malInflight`. -/
def Slot.zero : Slot :=
  { inUse := false, pRI := none, serial := 0, simId := 0, cmd := none, done := false
    err := 0, text := [], request := 0, errFrom := none, textFrom := none }

/-- The places in `malDispatch` between which other threads can act. -/
inductive Stage where
  /-- Before an attempt: clear `done`. -/
  | reset
  /-- Take the channel mutex and call the vendor. -/
  | call
  /-- In the vendor's `onRequest`. -/
  | inVendor
  /-- Wait for the completion. -/
  | wait
  /-- Sleep before the next attempt. -/
  | sleep
  /-- Take the result out of the slot. -/
  | collect
  /-- `malSendFrame`. -/
  | send
  /-- Free the slot. -/
  | release
  deriving DecidableEq, Repr

/-- The variables of a running `malDispatch`.  `finalErr` and `text` count from stage
`send` on, with the completions they were taken from. -/
structure Running where
  frame : MalRequest
  request : ℕ
  slot : Fin malMaxInflight
  pRI : ℕ
  routing : Routing
  attempt : ℕ
  timedOut : Bool
  stage : Stage
  finalErr : UInt32
  text : List UInt8
  errFrom : Option ℕ
  textFrom : Option ℕ
  deriving DecidableEq

/-- What the server thread is doing. -/
inductive Pc where
  /-- Between two frames. -/
  | idle
  | running (d : Running)
  /-- The process was stopped by an integer overflow trap. -/
  | aborted
  deriving DecidableEq

/-- A result on its way from `malClaim` to the slot.  `request` is the request that had the
slot when the token was recognised. -/
structure Completion where
  id : ℕ
  request : ℕ
  slot : Fin malMaxInflight
  err : UInt32
  text : List UInt8
  deriving DecidableEq

/-- Where an answer comes from. -/
inductive Source where
  /-- `malDispatch` answers without calling the vendor. -/
  | local
  /-- The retry loop of request `request` has ended. -/
  | vendor (request : ℕ) (timedOut : Bool) (errFrom textFrom : Option ℕ)
  deriving DecidableEq

/-- An answer frame, and the connection it was written to. -/
structure Answer where
  fd : Option ℕ
  simId : UInt32
  serial : UInt32
  err : UInt32
  text : List UInt8
  source : Source
  deriving DecidableEq

/-- Slots, server thread and vendor, and the record of what happened, latest first. -/
structure State where
  slots : Fin malMaxInflight → Slot
  /-- `s_malClientFd`. -/
  clientFd : Option ℕ
  pc : Pc
  /-- The results claimed and not yet delivered. -/
  claimed : List Completion
  /-- The allocated tokens. -/
  tokens : List ℕ
  /-- The frames dispatched, with the connection each came in on. -/
  frames : List (ℕ × MalRequest)
  answers : List Answer
  /-- All results claimed so far. -/
  completions : List Completion
  /-- Vendor calls made for the latest frame. -/
  vendorCalls : ℕ
  /-- A frame was refused because all slots were in use. -/
  refused : Bool

/-- Before the first connection. -/
def State.init : State :=
  { slots := fun _ => .zero, clientFd := none, pc := .idle, claimed := [], tokens := []
    frames := [], answers := [], completions := [], vendorCalls := 0, refused := false }

/-- Write a slot. -/
def State.setSlot (s : State) (i : Fin malMaxInflight) (slot : Slot) : State :=
  { s with slots := Function.update s.slots i slot }

/-- `malSendFrame`. -/
def State.malSendFrame (s : State) (simId serial err : UInt32) (text : List UInt8)
    (source : Source) : State :=
  { s with answers := ⟨s.clientFd, simId, serial, err, text, source⟩ :: s.answers }

@[simp] theorem setSlot_slots_self (s : State) (i : Fin malMaxInflight) (slot : Slot) :
    (s.setSlot i slot).slots i = slot := by
  simp [State.setSlot]

@[simp] theorem setSlot_vendorCalls (s : State) (i : Fin malMaxInflight) (slot : Slot) :
    (s.setSlot i slot).vendorCalls = s.vendorCalls := rfl

@[simp] theorem setSlot_answers (s : State) (i : Fin malMaxInflight) (slot : Slot) :
    (s.setSlot i slot).answers = s.answers := rfl

@[simp] theorem setSlot_completions (s : State) (i : Fin malMaxInflight) (slot : Slot) :
    (s.setSlot i slot).completions = s.completions := rfl

@[simp] theorem setSlot_pc (s : State) (i : Fin malMaxInflight) (slot : Slot) :
    (s.setSlot i slot).pc = s.pc := rfl

theorem setSlot_slots_of_ne (s : State) {i j : Fin malMaxInflight} (h : j ≠ i) (slot : Slot) :
    (s.setSlot i slot).slots j = s.slots j := by
  simp [State.setSlot, h]

/-! ## The vendor's side -/

/-- `malClaim`: the slot in use that has the token. -/
def malClaim (s : State) (t : ℕ) : Option (Fin malMaxInflight) :=
  (List.finRange malMaxInflight).find? fun i => (s.slots i).inUse && (s.slots i).pRI == some t

/-- The text that `malComplete` keeps of a response, when there is memory for the copy. -/
def keptText (response : Option (List UInt8)) (allocated : Bool) : List UInt8 :=
  if allocated then (response.getD []).takeWhile fun b => b ≠ 0 else []

/-- The top of `RIL_onRequestComplete`: a token that `malClaim` recognises is on its way to
`malComplete`. -/
def State.complete (s : State) (t : ℕ) (err : UInt32) (response : Option (List UInt8))
    (allocated : Bool) : State :=
  match malClaim s t with
  | none => s
  | some i =>
      let c : Completion :=
        ⟨s.completions.length, (s.slots i).request, i, err, keptText response allocated⟩
      { s with claimed := s.claimed ++ [c], completions := c :: s.completions }

/-- `malComplete`, from the lock on. -/
def State.malComplete (s : State) (c : Completion) : State :=
  s.setSlot c.slot { s.slots c.slot with
    text := c.text, err := c.err, done := true, errFrom := some c.id, textFrom := some c.id }

/-! ## The server's side -/

/-- The AT command of a request: `none` when `malDispatch` fails it with a generic
failure. -/
def commandOf (r : MalRequest) : Option (List UInt8) :=
  if r.requestId ≠ rilRequestAtCommandWithProxy then none
  else if r.payload.length < 8 then none
  else
    match malGetLE r.payload 4 with
    | .error _ => none
    | .ok cmdLen =>
        if r.payload.length - 8 < cmdLen.toNat then none
        else some ((r.payload.drop 8).take cmdLen.toNat)

/-- The first slot that is not in use. -/
def freeSlot (s : State) : Option (Fin malMaxInflight) :=
  (List.finRange malMaxInflight).find? fun i => !(s.slots i).inUse

/-- The slot as `malDispatch` fills it in for request number `n`. -/
def Slot.start (r : MalRequest) (cmd : List UInt8) (t n : ℕ) : Slot :=
  { inUse := true, pRI := some t, serial := r.serial, simId := r.simId, cmd := some cmd
    done := false, err := 0, text := [], request := n, errFrom := none, textFrom := none }

/-- `malDispatch` before its first attempt for request number `n`. -/
def Running.start (r : MalRequest) (n : ℕ) (i : Fin malMaxInflight) (t : ℕ)
    (routing : Routing) : Running :=
  { frame := r, request := n, slot := i, pRI := t, routing := routing, attempt := 1
    timedOut := false, stage := .reset, finalErr := 0, text := [], errFrom := none
    textFrom := none }

/-- `malDispatch` up to the first attempt.  `cmdAllocated` and `pRI` are what the two
allocations give. -/
def State.malDispatch (s : State) (simCount : ℕ) (r : MalRequest) (cmdAllocated : Bool)
    (pRI : Option ℕ) : State :=
  match commandOf r with
  | none => s.malSendFrame r.simId r.serial rilEGenericFailure [] .local
  | some cmd =>
      if !cmdAllocated then s.malSendFrame r.simId r.serial rilENoMemory [] .local
      else
        match freeSlot s with
        | none =>
            { s with refused := true }.malSendFrame r.simId r.serial rilEGenericFailure [] .local
        | some i =>
            match pRI with
            | none =>
                -- the fields filled in before the allocation stay
                (s.setSlot i { s.slots i with
                  inUse := false, serial := r.serial, simId := r.simId, cmd := none }).malSendFrame
                  r.simId r.serial rilENoMemory [] .local
            | some t =>
                match malRouting simCount r.simId with
                | none => { s with pc := .aborted }
                | some routing =>
                    { s.setSlot i (.start r cmd t s.frames.length) with
                      tokens := t :: s.tokens
                      pc := .running (.start r s.frames.length i t routing) }

/-- The server thread goes on to another place. -/
def State.goto (s : State) (d : Running) : State := { s with pc := .running d }

/-- The next step of a running `malDispatch`.  `expired` says that the deadline of the wait
has passed.  `none` while it has to wait. -/
def State.advance (s : State) (d : Running) (expired : Bool) : Option State :=
  let slot := s.slots d.slot
  match d.stage with
  | .reset =>
      some ((s.setSlot d.slot { slot with done := false }).goto { d with stage := .call })
  | .call => some ({ s with vendorCalls := s.vendorCalls + 1 }.goto { d with stage := .inVendor })
  | .inVendor => some (s.goto { d with stage := .wait })
  | .wait =>
      if slot.done || expired then
        -- `done` is read once more after the wait: a late completion still counts
        let timedOut := !slot.done
        if timedOut || slot.err == 0 || malMaxAttempts ≤ d.attempt then
          some (s.goto { d with timedOut := timedOut, stage := .collect })
        else some (s.goto { d with timedOut := timedOut, stage := .sleep })
      else none
  | .sleep => some (s.goto { d with attempt := d.attempt + 1, stage := .reset })
  | .collect =>
      let finalErr := if d.timedOut then rilEGenericFailure else slot.err
      some ((s.setSlot d.slot { slot with text := [], textFrom := none }).goto
        { d with stage := .send, finalErr := finalErr, text := slot.text
                 errFrom := slot.errFrom, textFrom := slot.textFrom })
  | .send =>
      some ((s.malSendFrame d.frame.simId d.frame.serial d.finalErr d.text
        (.vendor d.request d.timedOut d.errFrom d.textFrom)).goto { d with stage := .release })
  | .release =>
      -- after a time-out the vendor may still complete the token: it is not freed
      let tokens := if d.timedOut then s.tokens else s.tokens.erase d.pRI
      some { s.setSlot d.slot { slot with cmd := none, pRI := none, inUse := false } with
        pc := .idle, tokens := tokens }

/-! ## Steps -/

/-- What can happen. -/
inductive Event where
  /-- A client connects, and is gone again. -/
  | accept (fd : ℕ)
  | disconnect
  /-- The server has read a frame and calls `malDispatch`. -/
  | frame (r : MalRequest) (cmdAllocated : Bool) (pRI : Option ℕ)
  /-- The server thread takes its next step in `malDispatch`. -/
  | advance (expired : Bool)
  /-- The vendor completes a token, and the slot is looked up. -/
  | complete (t : ℕ) (err : UInt32) (response : Option (List UInt8)) (allocated : Bool)
  /-- The claimed result at position `k` is put into its slot. -/
  | deliver (k : ℕ)

/-- One step.  `none` when the event cannot happen in the state. -/
def step (simCount : ℕ) (s : State) : Event → Option State
  | .accept fd =>
      if s.pc = .idle ∧ s.clientFd = none then some { s with clientFd := some fd } else none
  | .disconnect => if s.pc = .idle then some { s with clientFd := none } else none
  | .frame r cmdAllocated pRI =>
      match s.pc, s.clientFd with
      | .idle, some fd =>
          if ∀ t ∈ pRI, t ∉ s.tokens then
            some ({ s with frames := (fd, r) :: s.frames, vendorCalls := 0 }.malDispatch simCount
              r cmdAllocated pRI)
          else none
      | _, _ => none
  | .advance expired =>
      match s.pc with
      | .running d => s.advance d expired
      | _ => none
  | .complete t err response allocated =>
      if s.pc = .aborted then none else some (s.complete t err response allocated)
  | .deliver k =>
      if s.pc = .aborted then none
      else (s.claimed[k]?).map fun c => { s with claimed := s.claimed.eraseIdx k }.malComplete c

/-! ## What `malDispatch` does with a frame -/

/-- The ways in which `malDispatch` leaves its first part. -/
inductive Dispatched (simCount : ℕ) (s : State) (r : MalRequest) (cmdAllocated : Bool)
    (pRI : Option ℕ) : State → Prop
  | answered (slots : Fin malMaxInflight → Slot) (err : UInt32)
      (hslots : ∀ i, (slots i).inUse = true → slots i = s.slots i)
      (hearly : commandOf r = none ∨ cmdAllocated = false ∨ pRI = none) :
      Dispatched simCount s r cmdAllocated pRI
        ({ s with slots := slots }.malSendFrame r.simId r.serial err [] .local)
  | refused (hfree : freeSlot s = none) :
      Dispatched simCount s r cmdAllocated pRI
        ({ s with refused := true }.malSendFrame r.simId r.serial rilEGenericFailure [] .local)
  | aborted (hcmd : (commandOf r).isSome) (hallocated : cmdAllocated) (htoken : pRI.isSome)
      (hrouting : malRouting simCount r.simId = none) :
      Dispatched simCount s r cmdAllocated pRI { s with pc := .aborted }
  | started (i : Fin malMaxInflight) (cmd : List UInt8) (t : ℕ) (routing : Routing)
      (hfree : freeSlot s = some i) (hrouting : malRouting simCount r.simId = some routing) :
      Dispatched simCount s r cmdAllocated pRI
        { s.setSlot i (.start r cmd t s.frames.length) with
          tokens := t :: s.tokens
          pc := .running (.start r s.frames.length i t routing) }

/-- A token that cannot be allocated leaves only a free slot changed. -/
theorem setSlot_free_eq {s : State} {i : Fin malMaxInflight} {slot : Slot}
    (hslot : slot.inUse = false) (j : Fin malMaxInflight)
    (hj : ((s.setSlot i slot).slots j).inUse = true) : (s.setSlot i slot).slots j = s.slots j := by
  by_cases hji : j = i
  · subst hji
    rw [setSlot_slots_self, hslot] at hj
    exact absurd hj (by simp)
  · exact setSlot_slots_of_ne s hji slot

theorem malDispatch_dispatched (simCount : ℕ) (s : State) (r : MalRequest)
    (cmdAllocated : Bool) (pRI : Option ℕ) :
    Dispatched simCount s r cmdAllocated pRI (s.malDispatch simCount r cmdAllocated pRI) := by
  unfold State.malDispatch
  cases hcmd : commandOf r with
  | none => exact .answered s.slots _ (fun _ _ => rfl) (Or.inl hcmd)
  | some cmd =>
      cases cmdAllocated with
      | false => exact .answered s.slots _ (fun _ _ => rfl) (Or.inr (Or.inl rfl))
      | true =>
          cases hfree : freeSlot s with
          | none => exact .refused hfree
          | some i =>
              cases pRI with
              | none => exact .answered _ _ (setSlot_free_eq rfl) (Or.inr (Or.inr rfl))
              | some t =>
                  cases hrouting : malRouting simCount r.simId with
                  | none => exact .aborted (by rw [hcmd]; rfl) rfl rfl hrouting
                  | some routing => exact .started i cmd t routing hfree hrouting

/-! ## What a step does -/

/-- The steps of a running `malDispatch`, by the stage it is at. -/
inductive Advanced (s : State) (d : Running) (expired : Bool) : State → Prop
  | reset (hstage : d.stage = .reset) :
      Advanced s d expired ((s.setSlot d.slot { s.slots d.slot with done := false }).goto
        { d with stage := .call })
  | call (hstage : d.stage = .call) :
      Advanced s d expired ({ s with vendorCalls := s.vendorCalls + 1 }.goto
        { d with stage := .inVendor })
  | inVendor (hstage : d.stage = .inVendor) :
      Advanced s d expired (s.goto { d with stage := .wait })
  | ended (hstage : d.stage = .wait) (hdone : (s.slots d.slot).done = true ∨ expired = true) :
      Advanced s d expired (s.goto
        { d with timedOut := !(s.slots d.slot).done, stage := .collect })
  | retried (hstage : d.stage = .wait) (hattempt : d.attempt < malMaxAttempts) :
      Advanced s d expired (s.goto
        { d with timedOut := !(s.slots d.slot).done, stage := .sleep })
  | slept (hstage : d.stage = .sleep) :
      Advanced s d expired (s.goto { d with attempt := d.attempt + 1, stage := .reset })
  | collected (hstage : d.stage = .collect) :
      Advanced s d expired
        ((s.setSlot d.slot { s.slots d.slot with text := [], textFrom := none }).goto
          { d with
            stage := .send
            finalErr := if d.timedOut then rilEGenericFailure else (s.slots d.slot).err
            text := (s.slots d.slot).text
            errFrom := (s.slots d.slot).errFrom
            textFrom := (s.slots d.slot).textFrom })
  | sent (hstage : d.stage = .send) :
      Advanced s d expired
        ((s.malSendFrame d.frame.simId d.frame.serial d.finalErr d.text
          (.vendor d.request d.timedOut d.errFrom d.textFrom)).goto { d with stage := .release })
  | released (hstage : d.stage = .release) (tokens : List ℕ) :
      Advanced s d expired
        { s.setSlot d.slot { s.slots d.slot with cmd := none, pRI := none, inUse := false } with
          pc := .idle, tokens := tokens }

theorem advance_advanced {s s' : State} {d : Running} {expired : Bool}
    (h : s.advance d expired = some s') : Advanced s d expired s' := by
  unfold State.advance at h
  cases hstage : d.stage with
  | wait =>
      simp only [hstage] at h
      split at h
      · rename_i hdone
        split at h
        · cases h
          exact .ended hstage (by simpa using hdone)
        · rename_i hretry
          cases h
          simp only [Bool.or_eq_true, decide_eq_true_eq, not_or] at hretry
          exact .retried hstage (Nat.lt_of_not_le hretry.2)
      · exact absurd h (by simp)
  | reset =>
      simp only [hstage, Option.some.injEq] at h
      exact h ▸ .reset hstage
  | call =>
      simp only [hstage, Option.some.injEq] at h
      exact h ▸ .call hstage
  | inVendor =>
      simp only [hstage, Option.some.injEq] at h
      exact h ▸ .inVendor hstage
  | sleep =>
      simp only [hstage, Option.some.injEq] at h
      exact h ▸ .slept hstage
  | collect =>
      simp only [hstage, Option.some.injEq] at h
      exact h ▸ .collected hstage
  | send =>
      simp only [hstage, Option.some.injEq] at h
      exact h ▸ .sent hstage
  | release =>
      simp only [hstage, Option.some.injEq] at h
      exact h ▸ .released hstage _

/-- What one step can do. -/
inductive Transition (simCount : ℕ) (s : State) : Event → State → Prop
  | accept (fd : ℕ) (hpc : s.pc = .idle) :
      Transition simCount s (.accept fd) { s with clientFd := some fd }
  | disconnect (hpc : s.pc = .idle) :
      Transition simCount s .disconnect { s with clientFd := none }
  | frame (fd : ℕ) (r : MalRequest) (cmdAllocated : Bool) (pRI : Option ℕ) (hpc : s.pc = .idle)
      (hfd : s.clientFd = some fd) :
      Transition simCount s (.frame r cmdAllocated pRI)
        ({ s with frames := (fd, r) :: s.frames, vendorCalls := 0 }.malDispatch simCount r
          cmdAllocated pRI)
  | advance (d : Running) (expired : Bool) (s' : State) (hpc : s.pc = .running d)
      (hadvanced : Advanced s d expired s') : Transition simCount s (.advance expired) s'
  | complete (t : ℕ) (err : UInt32) (response : Option (List UInt8)) (allocated : Bool)
      (hpc : s.pc ≠ .aborted) :
      Transition simCount s (.complete t err response allocated)
        (s.complete t err response allocated)
  | deliver (k : ℕ) (c : Completion) (hpc : s.pc ≠ .aborted) (hc : s.claimed[k]? = some c) :
      Transition simCount s (.deliver k)
        ({ s with claimed := s.claimed.eraseIdx k }.malComplete c)

/-- Every step is one of the transitions. -/
theorem step_transition {simCount : ℕ} {s s' : State} {e : Event}
    (h : step simCount s e = some s') : Transition simCount s e s' := by
  cases e with
  | accept fd =>
      simp only [step] at h
      split at h
      · rename_i hcond
        cases h
        exact .accept fd hcond.1
      · exact absurd h (by simp)
  | disconnect =>
      simp only [step] at h
      split at h
      · rename_i hpc
        cases h
        exact .disconnect hpc
      · exact absurd h (by simp)
  | frame r cmdAllocated pRI =>
      simp only [step] at h
      split at h
      · rename_i fd hpc hfd
        split at h
        · cases h
          exact .frame fd r cmdAllocated pRI hpc hfd
        · exact absurd h (by simp)
      · exact absurd h (by simp)
  | advance expired =>
      simp only [step] at h
      split at h
      · rename_i d hpc
        exact .advance d expired s' hpc (advance_advanced h)
      · exact absurd h (by simp)
  | complete t err response allocated =>
      simp only [step] at h
      split at h
      · exact absurd h (by simp)
      · rename_i hpc
        cases h
        exact .complete t err response allocated hpc
  | deliver k =>
      simp only [step] at h
      split at h
      · exact absurd h (by simp)
      · rename_i hpc
        obtain ⟨c, hc, rfl⟩ := Option.map_eq_some_iff.1 h
        exact .deliver k c hpc hc

/-- The vendor's side changes no more of a slot than its result. -/
theorem complete_slots (s : State) (t : ℕ) (err : UInt32) (response : Option (List UInt8))
    (allocated : Bool) : (s.complete t err response allocated).slots = s.slots := by
  unfold State.complete
  split <;> rfl

end Mal.Dispatch
