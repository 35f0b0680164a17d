/-
# The locks of libril together (`ril.cpp`, `ril_service.cpp`, `ril_event.cpp`)

The threads of libril share the mutexes of the channels, of the wake lock, of the event lists, of
the lists of requests, of the proxy queues, of MAL, of the attach APN and of SAP, and the rwlock of
the radio service.  Below, each thing that a thread of libril does is spelled out as the list of
its locks and unlocks, with the calls that the vendor makes back into libril.

* `Task` : what a thread does, from holding nothing to holding nothing;
* `rank` : the order in which the locks are taken;
* `fits_task` : every task takes its locks in this order;
* `no_deadlock_iff` : when no run of the threads gets stuck.

This is the build for two SIMs without channel queuing: `my_enqueue` takes no channel mutex, and
both slots share an rwlock.  The waits on the condition variables for a first event are left out,
as are the locks of the vendor.  The mutexes are locks that are only taken for writing.
-/
import Mathlib.Data.Fintype.Sum
import Mathlib.Tactic.DeriveFintype
import Ct07.Lib.LockOrder
import Ct07.Radio.Rwlock
import Ct07.Ril.ChannelQueue

open PartialStep LockDiscipline LockOrder

namespace Ril.Deadlock

/-! ## The locks -/

/-- The locks of libril.  There are `MTK_CHANNEL_COUNT` channels. -/
inductive Lock where
  | chMutex (k : Fin 24)
  | radioServiceRwlock (l : Radio.Rwlock)
  | wakeLockCountMutex
  | listMutex
  | pendingRequestsMutex (socketId : Fin 2)
  | proxyQMutex
  | malMutex
  | malDoneMutex
  | lastIaMutex
  | sapQueueMutex (slotId : Fin 2)
  deriving DecidableEq, Fintype

/-- The mutex that `mtkChannelLock` takes. -/
def channelMutex (cid : ℤ) : Lock := .chMutex (Fin.ofNat 24 (mtkChannelIndex cid))

/-- The rwlock of a slot. -/
def serviceRwlock (slotId : Fin 2) : Lock :=
  .radioServiceRwlock (Radio.getRadioServiceRwlock 2 slotId)

/-- What a thread does with the locks.  A note stands where a callback has failed, with the
rwlock of its slot. -/
abbrev LockAct := Act Lock Lock

/-- A section under a mutex, or under a write lock. -/
def locked (l : Lock) (acts : List LockAct) : List LockAct := .wrlock l :: acts ++ [.unlock l]

/-- A section under a read lock. -/
def underRead (l : Lock) (acts : List LockAct) : List LockAct := .rdlock l :: acts ++ [.unlock l]

/-! ## Functions -/

/-- `internalRequestTimedCallback`: with memory for the record, `ril_timer_add`. -/
def internalRequestTimedCallback (allocated : Bool) : List LockAct :=
  if allocated then locked .listMutex [] else []

/-- `grabPartialWakeLock` -/
def grabPartialWakeLock (version : ℤ) (allocated : Bool) : List LockAct :=
  if version ≥ 13 then locked .wakeLockCountMutex (internalRequestTimedCallback allocated) else []

/-- `releaseWakeLock` -/
def releaseWakeLock (version : ℤ) : List LockAct :=
  if version ≥ 13 then locked .wakeLockCountMutex [] else []

/-- `wakeTimeoutCallback`.  A cancelled one does nothing. -/
def wakeTimeoutCallback (version : ℤ) (cancelled : Bool) : List LockAct :=
  if cancelled then []
  else if version ≥ 13 then locked .wakeLockCountMutex []
  else releaseWakeLock version

/-- `addRequestToList`, with memory for the record. -/
def addRequestToList (socketId : Fin 2) : List LockAct := locked (.pendingRequestsMutex socketId) []

/-- `checkAndDequeueRequestInfoIfAck`, for a token that is not null. -/
def checkAndDequeueRequestInfoIfAck (socketId : Fin 2) : List LockAct :=
  locked (.pendingRequestsMutex socketId) []

/-- `malSendFrame`, with memory for the frame. -/
def malSendFrame (allocated : Bool) : List LockAct := if allocated then locked .malMutex [] else []

/-- `checkReturnStatus`, for a `Return` that is not ok. -/
def checkReturnStatus (l : Lock) : List LockAct := [.unlock l, .wrlock l, .unlock l, .rdlock l]

/-- A call to the client, and `checkReturnStatus`. -/
def callback (slotId : Fin 2) : Radio.ClientOutcome → List LockAct
  | .dead => .note (serviceRwlock slotId) :: checkReturnStatus (serviceRwlock slotId)
  | _ => []

/-- What becomes of a request that libril adds. -/
inductive RequestEnd where
  /-- There is no memory for its record. -/
  | notAdded
  /-- `sendErrorResponse`: unsupported, bad arguments, or no memory. -/
  | answered (outcome : Radio.ClientOutcome)
  /-- The vendor's `onRequest`. -/
  | forwarded

/-- A request is added.  `vendor` are the acts of the vendor in `onRequest`. -/
def RequestEnd.acts (slotId : Fin 2) (vendor : List LockAct) : RequestEnd → List LockAct
  | .notAdded => []
  | .answered outcome => addRequestToList slotId ++ callback slotId outcome
  | .forwarded => addRequestToList slotId ++ vendor

/-! ## Indications -/

/-- The indication handlers. -/
inductive Handler where
  | radio (handler : Radio.Handler)
  /-- Has the attach APN sent again, on the event loop. -/
  | setAttachApnInd

/-- How an indication fares. -/
structure Course where
  wakePartial : Bool
  /-- The timer of the wake lock can be allocated. -/
  timer : Bool
  /-- The timer that `setAttachApnInd` asks for can be allocated. -/
  attachTimer : Bool
  request : RequestEnd
  outcome : Radio.ClientOutcome
  /-- The copy of NITZ data that nobody was told cannot be allocated. -/
  nitzNoMemory : Bool

/-- The acts of a handler.  `vendor` are the acts of the vendor when the handler calls it. -/
def Handler.acts (slotId : Fin 2) (c : Course) (vendor : List LockAct) : Handler → List LockAct
  | .radio .nothing => []
  | .radio .radioStateChangedInd =>
      if c.outcome = .noClient then [] else vendor ++ callback slotId c.outcome
  | .radio .registrationSuspendInd =>
      if c.outcome = .noClient then [] else c.request.acts slotId vendor
  | .radio .mtkEcpiInd => c.request.acts slotId vendor
  | .radio .incomingCallInd =>
      if c.outcome = .noClient then []
      else c.request.acts slotId vendor ++ callback slotId c.outcome
  | .radio (.callInfoInd incoming) =>
      if c.outcome = .noClient then []
      else if incoming then c.request.acts slotId vendor
      else callback slotId c.outcome
  | .radio .other => callback slotId c.outcome
  | .setAttachApnInd =>
      if c.outcome = .noClient then [] else internalRequestTimedCallback c.attachTimer

/-- The end of `send_unsolResponse`. -/
def Course.finish (version : ℤ) (c : Course) : List LockAct :=
  if version < 13 ∧ c.wakePartial then
    internalRequestTimedCallback c.timer ++
      if c.timer ∧ ¬ c.nitzNoMemory then [] else releaseWakeLock version
  else if c.wakePartial ∧ c.nitzNoMemory then releaseWakeLock version
  else []

/-- `send_unsolResponse` -/
def sendUnsolResponse (version : ℤ) (slotId : Fin 2) (handler : Handler) (c : Course)
    (vendor : List LockAct) : List LockAct :=
  (if c.wakePartial then grabPartialWakeLock version c.timer else []) ++
    underRead (serviceRwlock slotId) (handler.acts slotId c vendor) ++ c.finish version

/-! ## The calls of the vendor -/

/-- How a request of a list is answered: after an early acknowledgement with a wake lock, whose
timer can be allocated or not. -/
structure Response where
  wasAckSent : Bool
  timer : Bool
  outcome : Radio.ClientOutcome

/-- The calls that the vendor makes into libril while it has the thread, one after the other. -/
inductive VendorCalls where
  | done
  /-- `RIL_onRequestComplete` with a token of MAL's. -/
  | malComplete (next : VendorCalls)
  /-- `RIL_onRequestComplete`.  Nothing is answered for a token that is unknown, and for a local
  or a cancelled request. -/
  | onRequestComplete (socketId : Fin 2) (response : Option Response) (next : VendorCalls)
  /-- `RIL_onRequestAck`, for a token that is known or not. -/
  | onRequestAck (socketId : Fin 2) (response : Option Radio.ClientOutcome) (next : VendorCalls)
  /-- `RIL_onUnsolicitedResponse`, for a code that is passed on.  `vendor` are the calls that the
  vendor makes when the handler calls it. -/
  | onUnsolicitedResponse (slotId : Fin 2) (handler : Handler) (course : Course)
      (vendor : VendorCalls) (next : VendorCalls)
  /-- `RIL_requestTimedCallback`, and `RIL_requestProxyTimedCallbackMtk`. -/
  | requestTimedCallback (allocated : Bool) (next : VendorCalls)
  /-- `RilSapSocket::onRequestComplete` -/
  | onSapRequestComplete (slotId : Fin 2) (next : VendorCalls)

/-- The answer to a request. -/
def Response.acts (version : ℤ) (socketId : Fin 2) (r : Response) : List LockAct :=
  (if version ≥ 13 ∧ r.wasAckSent then grabPartialWakeLock version r.timer else []) ++
    underRead (serviceRwlock socketId) (callback socketId r.outcome)

def VendorCalls.acts (version : ℤ) : VendorCalls → List LockAct
  | .done => []
  | .malComplete next => locked .malDoneMutex [] ++ next.acts version
  | .onRequestComplete socketId response next =>
      checkAndDequeueRequestInfoIfAck socketId ++
        response.elim [] (Response.acts version socketId) ++ next.acts version
  | .onRequestAck socketId response next =>
      checkAndDequeueRequestInfoIfAck socketId ++
        response.elim [] (fun outcome =>
          underRead (serviceRwlock socketId) (callback socketId outcome)) ++ next.acts version
  | .onUnsolicitedResponse slotId handler course vendor next =>
      sendUnsolResponse version slotId handler course (vendor.acts version) ++ next.acts version
  | .requestTimedCallback allocated next =>
      internalRequestTimedCallback allocated ++ next.acts version
  | .onSapRequestComplete slotId next => locked (.sapQueueMutex slotId) [] ++ next.acts version

/-! ## The tasks -/

/-- What the event loop calls. -/
inductive Callback where
  | wakeTimeoutCallback (cancelled : Bool)
  | mtkProxyTimerFired
  /-- `request` is `none` when there is no radio service. -/
  | sendInitialAttachApnAgain (slotId : Fin 2) (request : Option RequestEnd) (vendor : VendorCalls)
  | processWakeupCallback
  /-- A callback of the vendor. -/
  | vendorCallback (calls : VendorCalls)

def Callback.acts (version : ℤ) : Callback → List LockAct
  | .wakeTimeoutCallback cancelled => Deadlock.wakeTimeoutCallback version cancelled
  | .mtkProxyTimerFired => locked .proxyQMutex []
  | .sendInitialAttachApnAgain slotId request vendor =>
      locked .lastIaMutex [] ++
        request.elim [] (RequestEnd.acts slotId (vendor.acts version))
  | .processWakeupCallback => []
  | .vendorCallback calls => calls.acts version

/-- What a thread does. -/
inductive Task where
  /-- A HIDL method, with the requests that it adds.  `setInitialAttachApn` remembers the APN
  first. -/
  | hidlRequest (slotId : Fin 2) (remembers : Bool) (requests : List (RequestEnd × VendorCalls))
  | responseAcknowledgement
  /-- `RadioImpl::setResponseFunctions`, with the two indications on connect, and the NITZ resend
  when there is something to resend. -/
  | setResponseFunctions (slotId : Fin 2) (rilConnected radioStateChanged : Course)
      (vendor : VendorCalls) (nitz : Option Radio.ClientOutcome)
  /-- `OemHookImpl::setResponseFunctions` -/
  | oemSetResponseFunctions (slotId : Fin 2)
  | registerService
  /-- A thread of the vendor. -/
  | vendorThread (calls : VendorCalls)
  /-- A round of `ril_event_loop`. -/
  | eventLoop (fired : List Callback)
  /-- A job of `mtkProxyWorker`, with how often it has woken up for it. -/
  | mtkProxyWorker (ch : ℤ) (wakeups : ℕ) (job : VendorCalls)
  /-- A MAL client comes or goes. -/
  | malClient
  /-- `malDispatch`, with the attempts, and how often it has woken up in each. -/
  | malDispatch (chan : ℤ) (attempts : List (VendorCalls × ℕ)) (frame : Bool)
  /-- `RilSapSocket::dispatchRequest` -/
  | sapRequest (slotId : Fin 2) (vendor : VendorCalls)

/-- A section with waits, each of which gives the mutex up and takes it back. -/
def waiting (l : Lock) (wakeups : ℕ) : List LockAct :=
  (List.replicate (wakeups + 1) (locked l [])).flatten

/-- An attempt of `malDispatch`. -/
def malAttempt (version chan : ℤ) (attempt : VendorCalls × ℕ) : List LockAct :=
  locked .malDoneMutex [] ++ locked (channelMutex chan) (attempt.1.acts version) ++
    waiting .malDoneMutex attempt.2

/-- `onNewCommandConnect` -/
def onNewCommandConnect (version : ℤ) (slotId : Fin 2) (rilConnected radioStateChanged : Course)
    (vendor : List LockAct) (nitz : Option Radio.ClientOutcome) : List LockAct :=
  sendUnsolResponse version slotId (.radio .other) rilConnected [] ++
    sendUnsolResponse version slotId (.radio .radioStateChangedInd) radioStateChanged vendor ++
    nitz.elim [] (callback slotId)

/-- The acts of a task. -/
def Task.acts (version : ℤ) : Task → List LockAct
  | .hidlRequest slotId remembers requests =>
      (if remembers then locked .lastIaMutex [] else []) ++
        (requests.map fun r => r.1.acts slotId (r.2.acts version)).flatten
  | .responseAcknowledgement => releaseWakeLock version
  | .setResponseFunctions slotId rilConnected radioStateChanged vendor nitz =>
      -- the write lock is released before the indications
      locked (serviceRwlock slotId) [] ++
        onNewCommandConnect version slotId rilConnected radioStateChanged (vendor.acts version) nitz
  | .oemSetResponseFunctions slotId => locked (serviceRwlock slotId) []
  | .registerService => ((List.finRange 2).map fun i => locked (serviceRwlock i) []).flatten
  | .vendorThread calls => calls.acts version
  | .eventLoop fired =>
      -- `processTimeouts`, `processReadReadies`, `firePending`
      locked .listMutex [] ++ locked .listMutex [] ++
        (fired.map (Callback.acts version)).flatten
  | .mtkProxyWorker ch wakeups job =>
      waiting .proxyQMutex wakeups ++ locked (channelMutex ch) (job.acts version)
  | .malClient => locked .malMutex []
  | .malDispatch chan attempts frame =>
      (attempts.map (malAttempt version chan)).flatten ++
        (if attempts = [] then [] else locked .malDoneMutex []) ++ malSendFrame frame
  | .sapRequest slotId vendor => locked (.sapQueueMutex slotId) [] ++ vendor.acts version

/-! ## The order of the locks -/

/-- The ranks: what is taken under a lock ranks above it. -/
def rank : Lock → ℕ
  | .chMutex _ => 0
  | .radioServiceRwlock _ => 1
  | .wakeLockCountMutex => 2
  | _ => 3

/-- The thread holds the rwlock of the failed callback for reading, once. -/
def ReadLockedOnce (t : Thread Lock) (l : Lock) : Prop := t.held.reads l = 1

/-- What a thread may hold when it calls libril: channel mutexes, and the rwlock of the slots for
reading. -/
structure Outer (t : Thread Lock) : Prop where
  writes : ∀ l, t.held.writes l = true → rank l = 0
  reads : ∀ l, 0 < t.held.reads l → l = .radioServiceRwlock .radioServiceRwlock

/-- Both slots have the same rwlock. -/
theorem serviceRwlock_eq (slotId : Fin 2) :
    serviceRwlock slotId = .radioServiceRwlock .radioServiceRwlock := by
  revert slotId
  decide

theorem outer_idle : Outer Thread.idle where
  writes := by
    rintro l ⟨⟩
  reads := fun _ hl => absurd hl (Nat.lt_irrefl 0)

theorem outer_channel (cid : ℤ) : Outer (Thread.idle.setWrite (channelMutex cid) true) where
  writes := by
    intro l hl
    by_cases hcid : l = channelMutex cid
    · rw [hcid]
      rfl
    · simp [Thread.setWrite, Function.update_of_ne hcid, Thread.idle] at hl
  reads := fun _ hl => absurd hl (Nat.lt_irrefl 0)

section Fits

variable {version : ℤ} {t : Thread Lock} {acts vendor : List LockAct} {slotId : Fin 2}

theorem Outer.allBelow (h : Outer t) : AllBelow rank t 2 := by
  rintro l (hl | hl)
  · rw [h.writes l hl]
    decide
  · rw [h.reads l hl]
    decide

theorem Outer.serviceRwlock_writes (h : Outer t) (slotId : Fin 2) :
    t.held.writes (serviceRwlock slotId) = false := by
  cases hwrites : t.held.writes (serviceRwlock slotId) with
  | false => rfl
  | true => exact absurd (h.writes _ hwrites) (by simp [serviceRwlock, rank])

theorem Outer.below (h : Outer t) (slotId : Fin 2) : Below rank t (serviceRwlock slotId) := by
  rintro l hne (hl | hl)
  · rw [h.writes l hl]
    exact Nat.one_pos
  · -- the only rwlock that it reads is this one
    rw [h.reads l hl, serviceRwlock_eq] at hne
    exact absurd rfl hne

theorem Outer.read (h : Outer t) (slotId : Fin 2) : Outer (t.read (serviceRwlock slotId)) where
  writes := h.writes
  reads := by
    intro l hl
    by_cases hslot : l = serviceRwlock slotId
    · rw [hslot, serviceRwlock_eq]
    · exact h.reads l (by simpa [Thread.read, Function.update_of_ne hslot] using hl)

/-! ## Each function takes its locks in order -/

/-- A mutex under which nothing else is taken. -/
theorem fits_leaf {l : Lock} (h : AllBelow rank t (rank l)) :
    Fits ReadLockedOnce rank t (locked l []) := fits_nil.guarded h

theorem Outer.leaf (h : Outer t) {l : Lock} (hl : 2 ≤ rank l) :
    Fits ReadLockedOnce rank t (locked l []) :=
  fits_leaf fun l' hl' => lt_of_lt_of_le (h.allBelow l' hl') hl

theorem fits_internalRequestTimedCallback (h : AllBelow rank t 3) (allocated : Bool) :
    Fits ReadLockedOnce rank t (internalRequestTimedCallback allocated) := by
  unfold internalRequestTimedCallback
  split
  · exact fits_leaf h
  · exact fits_nil

theorem Outer.internalRequestTimedCallback (h : Outer t) (allocated : Bool) :
    Fits ReadLockedOnce rank t (internalRequestTimedCallback allocated) :=
  fits_internalRequestTimedCallback (fun l hl => (h.allBelow l hl).trans (by decide)) allocated

theorem Outer.grabPartialWakeLock (h : Outer t) (allocated : Bool) :
    Fits ReadLockedOnce rank t (grabPartialWakeLock version allocated) := by
  unfold Deadlock.grabPartialWakeLock
  split
  · -- the timer is added under the mutex of the wake lock
    apply Fits.guarded h.allBelow
    apply fits_internalRequestTimedCallback
    exact h.allBelow.setWrite (by decide) (by decide) true
  · exact fits_nil

theorem Outer.releaseWakeLock (h : Outer t) :
    Fits ReadLockedOnce rank t (releaseWakeLock version) := by
  unfold Deadlock.releaseWakeLock
  split
  · exact h.leaf le_rfl
  · exact fits_nil

theorem Outer.callback (h : Outer t) (outcome : Radio.ClientOutcome) :
    Fits ReadLockedOnce rank t (callback slotId outcome) := by
  cases outcome with
  | dead => exact fits_upgraded (h.serviceRwlock_writes slotId) Iff.rfl (h.below slotId)
  | success => exact fits_nil
  | noClient => exact fits_nil

theorem Outer.underRead (h : Outer t)
    (hacts : Fits ReadLockedOnce rank (t.read (serviceRwlock slotId)) acts) :
    Fits ReadLockedOnce rank t (underRead (serviceRwlock slotId) acts) :=
  hacts.readLocked (h.serviceRwlock_writes slotId) (h.below slotId)

theorem Outer.request (h : Outer t) (hvendor : Fits ReadLockedOnce rank t vendor)
    (r : RequestEnd) : Fits ReadLockedOnce rank t (r.acts slotId vendor) := by
  have hadd : Fits ReadLockedOnce rank t (addRequestToList slotId) := h.leaf (by decide : 2 ≤ 3)
  cases r with
  | notAdded => exact fits_nil
  | answered outcome => exact hadd.append (h.callback outcome)
  | forwarded => exact hadd.append hvendor

theorem Outer.handler (h : Outer t) (hvendor : Fits ReadLockedOnce rank t vendor)
    (handler : Handler) (c : Course) :
    Fits ReadLockedOnce rank t (handler.acts slotId c vendor) := by
  have hcallback : Fits ReadLockedOnce rank t (Deadlock.callback slotId c.outcome) :=
    h.callback c.outcome
  have hrequest : Fits ReadLockedOnce rank t (c.request.acts slotId vendor) :=
    h.request hvendor c.request
  cases handler with
  | setAttachApnInd =>
      simp only [Handler.acts]
      split
      · exact fits_nil
      · exact h.internalRequestTimedCallback c.attachTimer
  | radio handler =>
      cases handler with
      | nothing => exact fits_nil
      | radioStateChangedInd =>
          simp only [Handler.acts]
          split
          · exact fits_nil
          · exact hvendor.append hcallback
      | registrationSuspendInd =>
          simp only [Handler.acts]
          split
          · exact fits_nil
          · exact hrequest
      | mtkEcpiInd => exact hrequest
      | incomingCallInd =>
          simp only [Handler.acts]
          split
          · exact fits_nil
          · exact hrequest.append hcallback
      | callInfoInd incoming =>
          simp only [Handler.acts]
          split
          · exact fits_nil
          · split
            · exact hrequest
            · exact hcallback
      | other => exact hcallback

theorem Outer.finish (h : Outer t) (c : Course) :
    Fits ReadLockedOnce rank t (c.finish version) := by
  unfold Course.finish
  split
  · apply (h.internalRequestTimedCallback c.timer).append
    split
    · exact fits_nil
    · exact h.releaseWakeLock
  · split
    · exact h.releaseWakeLock
    · exact fits_nil

theorem Outer.sendUnsolResponse (h : Outer t)
    (hvendor : Fits ReadLockedOnce rank (t.read (serviceRwlock slotId)) vendor)
    (handler : Handler) (c : Course) :
    Fits ReadLockedOnce rank t (sendUnsolResponse version slotId handler c vendor) := by
  have hgrab : Fits ReadLockedOnce rank t
      (if c.wakePartial then Deadlock.grabPartialWakeLock version c.timer else []) := by
    split
    · exact h.grabPartialWakeLock c.timer
    · exact fits_nil
  have hhandler : Fits ReadLockedOnce rank t
      (Deadlock.underRead (serviceRwlock slotId) (handler.acts slotId c vendor)) :=
    h.underRead ((h.read slotId).handler hvendor handler c)
  exact (hgrab.append hhandler).append (h.finish c)

theorem Outer.response (h : Outer t) (r : Response) :
    Fits ReadLockedOnce rank t (r.acts version slotId) := by
  have hanswer : Fits ReadLockedOnce rank t
      (Deadlock.underRead (serviceRwlock slotId) (Deadlock.callback slotId r.outcome)) :=
    h.underRead ((h.read slotId).callback r.outcome)
  refine Fits.append ?_ hanswer
  split
  · exact h.grabPartialWakeLock r.timer
  · exact fits_nil

/-- **The calls of the vendor**, by induction on how they are nested. -/
theorem Outer.vendorCalls (h : Outer t) (calls : VendorCalls) :
    Fits ReadLockedOnce rank t (calls.acts version) := by
  induction calls generalizing t with
  | done => exact fits_nil
  | malComplete next ih =>
      have hdone : Fits ReadLockedOnce rank t (locked .malDoneMutex []) := h.leaf (by decide)
      exact hdone.append (ih h)
  | onRequestComplete socketId response next ih =>
      have hdequeue : Fits ReadLockedOnce rank t (checkAndDequeueRequestInfoIfAck socketId) :=
        h.leaf (by decide : 2 ≤ 3)
      refine (hdequeue.append ?_).append (ih h)
      cases response with
      | none => exact fits_nil
      | some r => exact h.response r
  | onRequestAck socketId response next ih =>
      have hdequeue : Fits ReadLockedOnce rank t (checkAndDequeueRequestInfoIfAck socketId) :=
        h.leaf (by decide : 2 ≤ 3)
      refine (hdequeue.append ?_).append (ih h)
      cases response with
      | none => exact fits_nil
      | some outcome => exact h.underRead ((h.read socketId).callback outcome)
  | onUnsolicitedResponse slotId handler course vendor next ihv ihn =>
      -- the calls from inside the handler are made with one read lock more
      exact (h.sendUnsolResponse (ihv (h.read slotId)) handler course).append (ihn h)
  | requestTimedCallback allocated next ih =>
      exact (h.internalRequestTimedCallback allocated).append (ih h)
  | onSapRequestComplete slotId next ih =>
      have hqueue : Fits ReadLockedOnce rank t (locked (.sapQueueMutex slotId) []) :=
        h.leaf (by decide : 2 ≤ 3)
      exact hqueue.append (ih h)

end Fits

/-! ## Each task takes its locks in order -/

section Tasks

variable (version : ℤ)

theorem fits_channel (cid : ℤ) (calls : VendorCalls) :
    Fits ReadLockedOnce rank Thread.idle (locked (channelMutex cid) (calls.acts version)) := by
  apply Fits.writeLocked
  · rintro (⟨⟨⟩⟩ | hreads)
    exact absurd hreads (Nat.lt_irrefl 0)
  · rintro l - (⟨⟨⟩⟩ | hreads)
    exact absurd hreads (Nat.lt_irrefl 0)
  · exact (outer_channel cid).vendorCalls calls

theorem fits_waiting {l : Lock} (hl : 2 ≤ rank l) (wakeups : ℕ) :
    Fits ReadLockedOnce rank Thread.idle (waiting l wakeups) := by
  apply Fits.flatten
  intro acts hacts
  rw [List.eq_of_mem_replicate hacts]
  exact outer_idle.leaf hl

theorem fits_malDispatch (chan : ℤ) (attempts : List (VendorCalls × ℕ)) (frame : Bool) :
    Fits ReadLockedOnce rank Thread.idle
      ((Task.malDispatch chan attempts frame).acts version) := by
  have hdone : Fits ReadLockedOnce rank Thread.idle (locked .malDoneMutex []) :=
    outer_idle.leaf (by decide)
  refine Fits.append (Fits.append (Fits.flatten ?_) ?_) ?_
  · intro acts hacts
    obtain ⟨attempt, -, rfl⟩ := List.mem_map.1 hacts
    exact (hdone.append (fits_channel version chan attempt.1)).append
      (fits_waiting (by decide) attempt.2)
  · split
    · exact fits_nil
    · exact hdone
  · unfold malSendFrame
    split
    · exact outer_idle.leaf (by decide)
    · exact fits_nil

theorem fits_onNewCommandConnect (slotId : Fin 2) (rilConnected radioStateChanged : Course)
    (calls : VendorCalls) (nitz : Option Radio.ClientOutcome) :
    Fits ReadLockedOnce rank Thread.idle
      (onNewCommandConnect version slotId rilConnected radioStateChanged (calls.acts version)
        nitz) := by
  have hread : Outer (Thread.idle.read (serviceRwlock slotId)) := outer_idle.read slotId
  refine Fits.append (Fits.append ?_ ?_) ?_
  · exact outer_idle.sendUnsolResponse fits_nil _ _
  · exact outer_idle.sendUnsolResponse (hread.vendorCalls calls) _ _
  · cases nitz with
    | none => exact fits_nil
    | some outcome => exact outer_idle.callback outcome

theorem fits_setWrite (slotId : Fin 2) :
    Fits ReadLockedOnce rank Thread.idle (locked (serviceRwlock slotId) []) := by
  apply fits_leaf
  rintro l (⟨⟨⟩⟩ | hreads)
  exact absurd hreads (Nat.lt_irrefl 0)

theorem fits_callback (c : Callback) :
    Fits ReadLockedOnce rank Thread.idle (c.acts version) := by
  cases c with
  | wakeTimeoutCallback cancelled =>
      simp only [Callback.acts, wakeTimeoutCallback]
      split
      · exact fits_nil
      · split
        · exact outer_idle.leaf le_rfl
        · exact outer_idle.releaseWakeLock
  | mtkProxyTimerFired => exact outer_idle.leaf (by decide)
  | sendInitialAttachApnAgain slotId request vendor =>
      have hia : Fits ReadLockedOnce rank Thread.idle (locked .lastIaMutex []) :=
        outer_idle.leaf (by decide)
      apply hia.append
      cases request with
      | none => exact fits_nil
      | some r => exact outer_idle.request (outer_idle.vendorCalls vendor) r
  | processWakeupCallback => exact fits_nil
  | vendorCallback calls => exact outer_idle.vendorCalls calls

/-- **Every task** takes its locks in order, and its notes decide whether it keeps the
discipline. -/
theorem fits_task (p : Task) : Fits ReadLockedOnce rank Thread.idle (p.acts version) := by
  cases p with
  | hidlRequest slotId remembers requests =>
      refine Fits.append ?_ (Fits.flatten ?_)
      · split
        · exact outer_idle.leaf (by decide)
        · exact fits_nil
      · intro acts hacts
        obtain ⟨r, -, rfl⟩ := List.mem_map.1 hacts
        exact outer_idle.request (outer_idle.vendorCalls r.2) r.1
  | responseAcknowledgement => exact outer_idle.releaseWakeLock
  | setResponseFunctions slotId rilConnected radioStateChanged vendor nitz =>
      exact (fits_setWrite slotId).append
        (fits_onNewCommandConnect version slotId rilConnected radioStateChanged vendor nitz)
  | oemSetResponseFunctions slotId => exact fits_setWrite slotId
  | registerService =>
      apply Fits.flatten
      intro acts hacts
      obtain ⟨i, -, rfl⟩ := List.mem_map.1 hacts
      exact fits_setWrite i
  | vendorThread calls => exact outer_idle.vendorCalls calls
  | eventLoop fired =>
      have hlist : Fits ReadLockedOnce rank Thread.idle (locked .listMutex []) :=
        outer_idle.leaf (by decide)
      apply (hlist.append hlist).append
      apply Fits.flatten
      intro acts hacts
      obtain ⟨c, -, rfl⟩ := List.mem_map.1 hacts
      exact fits_callback version c
  | mtkProxyWorker ch wakeups job =>
      exact (fits_waiting (by decide) wakeups).append (fits_channel version ch job)
  | malClient => exact outer_idle.leaf (by decide)
  | malDispatch chan attempts frame => exact fits_malDispatch version chan attempts frame
  | sapRequest slotId vendor =>
      have hqueue : Fits ReadLockedOnce rank Thread.idle (locked (.sapQueueMutex slotId) []) :=
        outer_idle.leaf (by decide : 2 ≤ 3)
      exact hqueue.append (outer_idle.vendorCalls vendor)

end Tasks

/-! ## Main result -/

/-- Each callback that fails on the way is made by a thread that holds the rwlock of its slot for
reading, once. -/
def Task.Safe (version : ℤ) (p : Task) : Prop :=
  Meets Thread.perform (NotesMeet ReadLockedOnce) Thread.idle (p.acts version)

/-- The tasks that keep the discipline, each by itself. -/
theorem alone_iff (version : ℤ) (p : Task) : Alone (p.acts version) ↔ p.Safe version :=
  (fits_task version p).decided.run_eq_iff

/-- The tasks that begin are safe. -/
def Safe {T : Type} (version : ℤ) : Event T Task → Prop
  | .start _ p => p.Safe version
  | .act _ => True

/-- **When no run gets stuck.**  For any threads, any tasks of theirs and any order of their steps:
in every state of the run, all the threads can come to their ends, exactly when in each task that
begins the callbacks that fail are made by a thread that holds the rwlock of its slot for reading
once. -/
theorem no_deadlock_iff {T : Type} [Fintype T] [DecidableEq T] (version : ℤ)
    (es : List (Event T Task)) :
    Always (step (Task.acts version)) (Completable (Task.acts version)) System.init es ↔
      Meets (step (Task.acts version)) (fun _ e => Safe version e) System.init es := by
  have hkeeps : ∀ e : Event T Task, e.Keeps (Task.acts version) ↔ Safe version e := by
    rintro (⟨t, p⟩ | t)
    · exact alone_iff version p
    · exact Iff.rfl
  have hord : ∀ p : Task, Meets Thread.perform (InOrder rank) Thread.idle (p.acts version) :=
    fun p => (fits_task version p).inOrder
  rw [always_completable_iff hord]
  simp only [hkeeps]

end Ril.Deadlock
