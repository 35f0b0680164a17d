/-
# The radio-service rwlock (`ril_service.cpp`)

The callbacks of a slot are guarded by the rwlock `getRadioServiceRwlock` gives for it.
libril calls the client under a read lock that the caller of the response function has
taken, and when the client is dead, `checkReturnStatus` gives the read lock up for the
write lock and takes it back, deep inside the response function.

Below, each way into libril is spelled out as the list of locks and unlocks that its
thread makes, the calls the vendor makes back into libril included.  The error answers of
the HIDL methods and the NITZ resend call the client without a read lock; a call from
inside an indication handler is made under two.

Main result: `rwlockDisciplined_iff`.
-/
import Ct07.Lib.LockDiscipline

open PartialStep LockDiscipline

namespace Radio

/-! ## The locks -/

/-- The rwlocks of `ril_service.cpp`. -/
inductive Rwlock where
  | radioServiceRwlock | radioServiceRwlock2 | radioServiceRwlock3 | radioServiceRwlock4
  deriving DecidableEq, Repr

instance : Fintype Rwlock :=
  ⟨{.radioServiceRwlock, .radioServiceRwlock2, .radioServiceRwlock3, .radioServiceRwlock4},
    fun l => by cases l <;> decide⟩

/-- `radio::getRadioServiceRwlock`.  The slots are 0-based, so that slots 0 and 1 share a
lock. -/
def getRadioServiceRwlock (simCount slotId : ℕ) : Rwlock :=
  if 2 ≤ simCount ∧ slotId = 2 then .radioServiceRwlock2
  else if 3 ≤ simCount ∧ slotId = 3 then .radioServiceRwlock3
  else if 4 ≤ simCount ∧ slotId = 4 then .radioServiceRwlock4
  else .radioServiceRwlock

/-- What a thread does with the locks.  A note stands where a callback has failed, with the
rwlock of its slot. -/
abbrev LockAct := Act Rwlock Rwlock

/-! ## Callbacks -/

/-- What becomes of a call to the client. -/
inductive ClientOutcome where
  | success
  | dead
  /-- No client is registered, or the response function finds nothing to tell it. -/
  | noClient
  deriving DecidableEq, Repr

/-- `checkReturnStatus`, for a `Return` that is not ok. -/
def checkReturnStatus (l : Rwlock) : List LockAct :=
  [.unlock l, .wrlock l, .unlock l, .rdlock l]

/-- A response function, or the end of an indication handler: the call to the client, and
`checkReturnStatus`. -/
def callback (l : Rwlock) : ClientOutcome → List LockAct
  | .dead => .note l :: checkReturnStatus l
  | _ => []

/-! ## Entry points -/

/-- A section under a read lock. -/
def underRead (l : Rwlock) (acts : List LockAct) : List LockAct :=
  .rdlock l :: acts ++ [.unlock l]

/-- A call into libril. -/
def call (acts : List LockAct) : List LockAct := .enter :: acts ++ [.leave]

/-- The indication handlers, by what they do beside calling the client. -/
inductive Handler where
  /-- No handler, or a payload that the handler rejects. -/
  | nothing
  /-- Asks the vendor for the radio state first. -/
  | radioStateChangedInd
  /-- Issues a request. -/
  | registrationSuspendInd
  /-- Issues a request, whether or not a client is registered. -/
  | mtkEcpiInd
  /-- Issues a request first. -/
  | incomingCallInd
  /-- Issues a request instead, when the call is an incoming one. -/
  | callInfoInd (incoming : Bool)
  /-- The others. -/
  | other
  deriving DecidableEq, Repr

/-- `dispatchInts`: answers the request itself when there is no memory, and otherwise hands
it to the vendor, which makes the calls `vendor`. -/
def dispatchInts (l : Rwlock) (noMemory : Option ClientOutcome) (vendor : List LockAct) :
    List LockAct :=
  noMemory.elim vendor (callback l)

/-- The acts of a handler.  `vendor` are the calls that the vendor makes when the handler
calls it, and `noMemory` is the outcome of the answer when a request of the handler cannot
be allocated. -/
def Handler.acts (l : Rwlock) (noMemory : Option ClientOutcome) (vendor : List LockAct)
    (outcome : ClientOutcome) : Handler → List LockAct
  | .nothing => []
  | .radioStateChangedInd =>
      if outcome = .noClient then [] else vendor ++ callback l outcome
  | .registrationSuspendInd =>
      if outcome = .noClient then [] else dispatchInts l noMemory vendor
  | .mtkEcpiInd => dispatchInts l noMemory vendor
  | .incomingCallInd =>
      if outcome = .noClient then []
      else dispatchInts l noMemory vendor ++ callback l outcome
  | .callInfoInd incoming =>
      if outcome = .noClient then []
      else if incoming then dispatchInts l noMemory vendor
      else callback l outcome
  | .other => callback l outcome

/-- The calls that the vendor makes into libril while it has the thread, one after the
other. -/
inductive VendorCalls where
  | done
  /-- `RIL_onRequestComplete`.  `response` is `none` when nothing is answered: a token that
  is unknown or MAL's, a local or a cancelled request.  `dequeued` are the calls the vendor
  makes when it is handed the next request of the channel. -/
  | onRequestComplete (slotId : ℕ) (response : Option ClientOutcome)
      (dequeued next : VendorCalls)
  /-- `RIL_onRequestAck`, for a token that is known or not. -/
  | onRequestAck (slotId : ℕ) (response : Option ClientOutcome) (next : VendorCalls)
  /-- `RIL_onUnsolicitedResponse`, for a code that is passed on. -/
  | onUnsolicitedResponse (slotId : ℕ) (handler : Handler) (noMemory : Option ClientOutcome)
      (vendor : VendorCalls) (outcome : ClientOutcome) (next : VendorCalls)

/-- `send_unsolResponse`. -/
def sendUnsolResponse (l : Rwlock) (handler : Handler) (noMemory : Option ClientOutcome)
    (vendor : List LockAct) (outcome : ClientOutcome) : List LockAct :=
  underRead l (handler.acts l noMemory vendor outcome)

/-- The answer to a request, under the read lock. -/
def respond (l : Rwlock) (response : Option ClientOutcome) : List LockAct :=
  response.elim [] fun outcome => underRead l (callback l outcome)

section Acts

variable (simCount : ℕ)

/-- The acts of the calls the vendor makes. -/
def VendorCalls.acts : VendorCalls → List LockAct
  | .done => []
  | .onRequestComplete slotId response dequeued next =>
      call (respond (getRadioServiceRwlock simCount slotId) response ++ dequeued.acts) ++
        next.acts
  | .onRequestAck slotId response next =>
      call (respond (getRadioServiceRwlock simCount slotId) response) ++ next.acts
  | .onUnsolicitedResponse slotId handler noMemory vendor outcome next =>
      call (sendUnsolResponse (getRadioServiceRwlock simCount slotId) handler noMemory
        vendor.acts outcome) ++ next.acts

/-- What becomes of a request that a HIDL method adds. -/
inductive RequestEnd where
  /-- `sendErrorResponse`: unsupported, bad arguments, or no memory. -/
  | answered (outcome : ClientOutcome)
  /-- The vendor's `onRequest`. -/
  | forwarded (vendor : VendorCalls)

def RequestEnd.acts (l : Rwlock) : RequestEnd → List LockAct
  | .answered outcome => callback l outcome
  | .forwarded vendor => vendor.acts simCount

/-- The ways into libril on a thread that holds nothing. -/
inductive EntryPoint where
  /-- A HIDL method, with the requests it adds.  Also the timed callback that sends the
  attach APN again. -/
  | hidlRequest (slotId : ℕ) (requests : List RequestEnd)
  /-- A thread of the vendor. -/
  | vendorThread (calls : VendorCalls)
  /-- `RadioImpl::setResponseFunctions`, with the outcomes of the two indications on
  connect, and of the NITZ resend when there is something to resend. -/
  | setResponseFunctions (slotId : ℕ) (rilConnected : ClientOutcome) (vendor : VendorCalls)
      (radioStateChanged : ClientOutcome) (nitz : Option ClientOutcome)
  /-- `OemHookImpl::setResponseFunctions`. -/
  | oemSetResponseFunctions (slotId : ℕ)

/-- `resendLastNITZTimeData`, when there is something to resend. -/
def resendLastNITZTimeData (l : Rwlock) (nitz : Option ClientOutcome) : List LockAct :=
  nitz.elim [] (callback l)

/-- `onNewCommandConnect`. -/
def onNewCommandConnect (l : Rwlock) (rilConnected : ClientOutcome) (vendor : List LockAct)
    (radioStateChanged : ClientOutcome) (nitz : Option ClientOutcome) : List LockAct :=
  call (sendUnsolResponse l .other none [] rilConnected) ++
    call (sendUnsolResponse l .radioStateChangedInd none vendor radioStateChanged) ++
    resendLastNITZTimeData l nitz

/-- The acts of an entry point. -/
def EntryPoint.acts : EntryPoint → List LockAct
  | .hidlRequest slotId requests =>
      call (requests.map
        (RequestEnd.acts simCount (getRadioServiceRwlock simCount slotId))).flatten
  | .vendorThread calls => calls.acts simCount
  | .setResponseFunctions slotId rilConnected vendor radioStateChanged nitz =>
      let l := getRadioServiceRwlock simCount slotId
      -- the callbacks are stored under the write lock, which is released before the indications
      call ([.wrlock l, .unlock l] ++
        onNewCommandConnect l rilConnected (vendor.acts simCount) radioStateChanged nitz)
  | .oemSetResponseFunctions slotId =>
      let l := getRadioServiceRwlock simCount slotId
      call [.wrlock l, .unlock l]

end Acts

/-! ## The property -/

/-- The thread that runs through the entry point keeps the lock discipline, in all the calls
made on the way, and holds nothing in the end. -/
def EntryPoint.Disciplined (simCount : ℕ) (e : EntryPoint) : Prop :=
  run Thread.perform Thread.idle (e.acts simCount) = some Thread.idle

/-- The thread holds the rwlock of the failed callback for reading, once. -/
def ReadLockedOnce (t : Thread Rwlock) (l : Rwlock) : Prop := t.held.reads l = 1

instance (t : Thread Rwlock) (l : Rwlock) : Decidable (ReadLockedOnce t l) :=
  inferInstanceAs (Decidable (_ = _))

instance (t : Thread Rwlock) (a : LockAct) : Decidable (NotesMeet ReadLockedOnce t a) := by
  cases a <;> simp only [NotesMeet] <;> infer_instance

/-! ## The acts are decided by the failing callbacks -/

section Decided

variable {t : Thread Rwlock} {l : Rwlock}

theorem decidedBy_callback (ht : t.Reader) (outcome : ClientOutcome) :
    DecidedBy ReadLockedOnce t (callback l outcome) := by
  cases outcome with
  | dead => exact decidedBy_upgrade ht Iff.rfl
  | _ => exact decidedBy_nil

theorem decidedBy_respond (ht : t.Reader) (response : Option ClientOutcome) :
    DecidedBy ReadLockedOnce t (respond l response) := by
  cases response with
  | none => exact decidedBy_nil
  | some outcome => exact (decidedBy_callback (ht.read l) outcome).underRead ht

theorem decidedBy_dispatchInts (ht : t.Reader) (noMemory : Option ClientOutcome)
    {vendor : List LockAct} (hvendor : DecidedBy ReadLockedOnce t vendor) :
    DecidedBy ReadLockedOnce t (dispatchInts l noMemory vendor) := by
  cases noMemory with
  | none => exact hvendor
  | some outcome => exact decidedBy_callback ht outcome

theorem decidedBy_handler (ht : t.Reader) (handler : Handler) (noMemory : Option ClientOutcome)
    {vendor : List LockAct} (hvendor : DecidedBy ReadLockedOnce t vendor)
    (outcome : ClientOutcome) :
    DecidedBy ReadLockedOnce t (handler.acts l noMemory vendor outcome) := by
  have hcallback : DecidedBy ReadLockedOnce t (callback l outcome) :=
    decidedBy_callback ht outcome
  have hdispatch : DecidedBy ReadLockedOnce t (dispatchInts l noMemory vendor) :=
    decidedBy_dispatchInts ht noMemory hvendor
  cases handler with
  | nothing => exact decidedBy_nil
  | radioStateChangedInd =>
      simp only [Handler.acts]
      split
      · exact decidedBy_nil
      · exact hvendor.append hcallback
  | registrationSuspendInd =>
      simp only [Handler.acts]
      split
      · exact decidedBy_nil
      · exact hdispatch
  | mtkEcpiInd => exact hdispatch
  | incomingCallInd =>
      simp only [Handler.acts]
      split
      · exact decidedBy_nil
      · exact hdispatch.append hcallback
  | callInfoInd incoming =>
      simp only [Handler.acts]
      split
      · exact decidedBy_nil
      · split
        · exact hdispatch
        · exact hcallback
  | other => exact hcallback

theorem decidedBy_sendUnsolResponse (ht : t.Reader) (handler : Handler)
    (noMemory : Option ClientOutcome) {vendor : List LockAct}
    (hvendor : DecidedBy ReadLockedOnce (t.read l) vendor) (outcome : ClientOutcome) :
    DecidedBy ReadLockedOnce t (sendUnsolResponse l handler noMemory vendor outcome) :=
  (decidedBy_handler (ht.read l) handler noMemory hvendor outcome).underRead ht

/-- **The calls of the vendor**, made on a thread that may hold any read locks. -/
theorem decidedBy_vendorCalls (simCount : ℕ) (calls : VendorCalls) (ht : t.Reader) :
    DecidedBy ReadLockedOnce t (calls.acts simCount) := by
  induction calls generalizing t with
  | done => exact decidedBy_nil
  | onRequestComplete slotId response dequeued next ihd ihn =>
      have hrespond : DecidedBy ReadLockedOnce t.enter
          (respond (getRadioServiceRwlock simCount slotId) response) :=
        decidedBy_respond ht.enter response
      exact (hrespond.append (ihd ht.enter)).call.append (ihn ht)
  | onRequestAck slotId response next ihn =>
      exact (decidedBy_respond ht.enter response).call.append (ihn ht)
  | onUnsolicitedResponse slotId handler noMemory vendor outcome next ihv ihn =>
      -- the calls from inside the handler are made with one read lock more
      have hbody := decidedBy_sendUnsolResponse ht.enter handler noMemory
        (ihv (ht.enter.read (getRadioServiceRwlock simCount slotId))) outcome
      exact hbody.call.append (ihn ht)

theorem decidedBy_requestEnd (simCount : ℕ) (ht : t.Reader) (r : RequestEnd) :
    DecidedBy ReadLockedOnce t (r.acts simCount l) := by
  cases r with
  | answered outcome => exact decidedBy_callback ht outcome
  | forwarded vendor => exact decidedBy_vendorCalls simCount vendor ht

theorem decidedBy_onNewCommandConnect (ht : t.Reader) (rilConnected : ClientOutcome)
    {vendor : List LockAct} (hvendor : DecidedBy ReadLockedOnce (t.enter.read l) vendor)
    (radioStateChanged : ClientOutcome) (nitz : Option ClientOutcome) :
    DecidedBy ReadLockedOnce t
      (onNewCommandConnect l rilConnected vendor radioStateChanged nitz) := by
  have hconnected : DecidedBy ReadLockedOnce t
      (call (sendUnsolResponse l .other none [] rilConnected)) :=
    (decidedBy_sendUnsolResponse ht.enter .other none decidedBy_nil rilConnected).call
  have hstate : DecidedBy ReadLockedOnce t
      (call (sendUnsolResponse l .radioStateChangedInd none vendor radioStateChanged)) :=
    (decidedBy_sendUnsolResponse ht.enter .radioStateChangedInd none hvendor
      radioStateChanged).call
  have hnitz : DecidedBy ReadLockedOnce t (resendLastNITZTimeData l nitz) := by
    cases nitz with
    | none => exact decidedBy_nil
    | some outcome => exact decidedBy_callback ht outcome
  exact (hconnected.append hstate).append hnitz

/-- The acts of every entry point. -/
theorem decidedBy_entryPoint (simCount : ℕ) (e : EntryPoint) :
    DecidedBy ReadLockedOnce Thread.idle (e.acts simCount) := by
  have hidle : (Thread.idle : Thread Rwlock).enter.Reader := reader_idle.enter
  cases e with
  | hidlRequest slotId requests =>
      refine DecidedBy.call (DecidedBy.flatten fun acts hacts => ?_)
      obtain ⟨r, -, rfl⟩ := List.mem_map.1 hacts
      exact decidedBy_requestEnd simCount hidle r
  | vendorThread calls => exact decidedBy_vendorCalls simCount calls reader_idle
  | setResponseFunctions slotId rilConnected vendor radioStateChanged nitz =>
      have hconnect := decidedBy_onNewCommandConnect hidle rilConnected
        (decidedBy_vendorCalls simCount vendor
          (hidle.enter.read (getRadioServiceRwlock simCount slotId))) radioStateChanged nitz
      exact ((decidedBy_writeLocked hidle rfl).append hconnect).call
  | oemSetResponseFunctions slotId => exact (decidedBy_writeLocked hidle rfl).call

end Decided

/-! ## Main result -/

/-- **When the lock discipline is kept.**  For any number of SIMs, every entry point, every
nesting of the vendor's calls and all outcomes of the callbacks: the discipline is kept
exactly when each callback that fails is made by a thread that holds the rwlock of its slot
for reading once. -/
theorem rwlockDisciplined_iff (simCount : ℕ) (e : EntryPoint) :
    e.Disciplined simCount ↔
      Meets Thread.perform (NotesMeet ReadLockedOnce) Thread.idle (e.acts simCount) :=
  (decidedBy_entryPoint simCount e).run_eq_iff

/-- An unsupported request is answered to a client that is dead: the read lock is given up
without having been taken. -/
theorem unsupportedRequest_not_disciplined :
    ¬ ∀ (simCount : ℕ) (e : EntryPoint), e.Disciplined simCount := by
  intro hall
  have hdisciplined := hall 2 (.hidlRequest 0 [.answered .dead])
  rw [EntryPoint.Disciplined, (decidedBy_entryPoint 2 _).run_eq_iff] at hdisciplined
  exact absurd hdisciplined (by decide)

end Radio
