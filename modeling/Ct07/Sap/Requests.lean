/-
# SAP requests (`sap_service.cpp`, `RilSapSocket.cpp`)

The life of the requests of one SAP socket.  A method of `SapImpl` allocates a message header,
encodes the request and copies the code into a payload; `RilSapSocket::dispatchRequest` puts
the header on the queue of pending requests and hands it to the vendor; the method then frees
the payload and the encode buffer.  When the vendor answers, `onRequestComplete` answers the
client, takes the request off the queue and frees the header.

* `Call` : the methods, with the ledger of what each does to its blocks of memory;
* `step` : the threads of the service and the answers of the vendor, in any order;
* `State.Queued` : what the queue has to do with the requests, as long as each completion finds
  its own request.

A block is named by the number of its request and its part, so that no address is used twice;
a record keeps its content when it is freed.
-/
import Ct07.Lib.Ledger
import Ct07.Lib.Run
import Ct07.Sap.Queue
import Mathlib.Data.Int.Notation

open AllocationLedger PartialStep

namespace Sap

/-! ## Messages -/

/-- The requests of `MsgId`. -/
inductive MsgId where
  | connect
  | disconnect
  | apdu
  | transferAtr
  | power
  | resetSim
  | transferCardReaderStatus
  | setTransferProtocol
  deriving DecidableEq

inductive MsgType where
  | request
  | response
  deriving DecidableEq

/-- `MsgHeader`, without the payload. -/
structure MsgHeader where
  token : ℤ
  type : MsgType
  id : MsgId
  error : ℤ
  deriving DecidableEq

/-! ## Blocks of memory and what can fail -/

/-- The blocks of one request: the `MsgHeader`, its payload, the buffer it is encoded into, the
bytes of the command nested in it, and the `SapSocketRequest`. -/
inductive Block where
  | header
  | payload
  | buffer
  | command
  | request
  deriving DecidableEq

/-- The calls whose failure is handled: the allocation of each block, the two of the encoder,
and the search for the socket. -/
inductive Point where
  | header
  | command
  | encodedSize
  | buffer
  | encode
  | payload
  | socket
  | request
  deriving DecidableEq

/-- A part of a request, with the ledger of its blocks. -/
abbrev Program (α : Type) := StateM (Ledger Block) α

/-- What became of a request when the method is done with the dispatch: the failure was
answered, or `dispatchRequest` ran out of memory, or it is on the queue. -/
inductive Outcome where
  | failed
  | dropped
  | queued
  deriving DecidableEq

section Programs

variable (fails : Point → Bool)

def malloc (p : Point) (b : Block) : Program Bool := do
  if fails p then return false
  modify (.alloc b :: ·)
  return true

def free (b : Block) : Program Unit := modify (.free b :: ·)

/-- A read or a write. -/
def touch (b : Block) : Program Unit := modify (.touch b :: ·)

/-- `SapImpl::sendFailedResponse`, with the pointers that are not null. -/
def sendFailedResponse (ptrs : List Block) : Program Outcome := do
  ptrs.forM free
  return .failed

/-- `SapImpl::createMsgHeader` -/
def createMsgHeader : Program Bool := do
  unless ← malloc fails .header .header do return false
  touch .header
  return true

/-- `RilSapSocket::dispatchRequest`, up to the queue. -/
def dispatchRequest : Program Outcome := do
  unless ← malloc fails .request .request do
    free .header
    return .dropped
  touch .header
  touch .request
  return .queued

/-- `SapImpl::addPayloadAndDispatchRequest`, up to the return of `dispatchRequest`. -/
def addPayloadAndDispatchRequest : Program Outcome := do
  touch .header
  unless ← malloc fails .payload .payload do
    return ← sendFailedResponse [.buffer, .header]
  touch .payload
  touch .buffer
  if fails .socket then return ← sendFailedResponse [.payload, .buffer, .header]
  dispatchRequest fails

/-- A method whose request has no bytes of its own. -/
def plainReq : Program Outcome := do
  unless ← createMsgHeader fails do return ← sendFailedResponse []
  if fails .encodedSize then return ← sendFailedResponse [.header]
  unless ← malloc fails .buffer .buffer do return ← sendFailedResponse [.header]
  touch .buffer
  if fails .encode then return ← sendFailedResponse [.buffer, .header]
  addPayloadAndDispatchRequest fails

/-- `SapImpl::apduReq`.  Without bytes `req.command` stays null. -/
def apduReq (command : List UInt8) : Program Outcome := do
  unless ← createMsgHeader fails do return ← sendFailedResponse []
  let nested := if command = [] then [] else [Block.command]
  if command ≠ [] then
    unless ← malloc fails .command .command do return ← sendFailedResponse [.header]
    touch .command
  if fails .encodedSize then return ← sendFailedResponse (nested ++ [.header])
  unless ← malloc fails .buffer .buffer do return ← sendFailedResponse (nested ++ [.header])
  nested.forM touch
  touch .buffer
  if fails .encode then return ← sendFailedResponse (nested ++ [.buffer, .header])
  addPayloadAndDispatchRequest fails

end Programs

/-- The methods of the service. -/
inductive Call where
  | connectReq (token maxMsgSize : ℤ)
  | disconnectReq (token : ℤ)
  | apduReq (token : ℤ) (type : ℤ) (command : List UInt8)
  | transferAtrReq (token : ℤ)
  | powerReq (token : ℤ) (state : Bool)
  | resetSimReq (token : ℤ)
  | transferCardReaderStatusReq (token : ℤ)
  | setTransferProtocolReq (token : ℤ) (transferProtocol : ℤ)
  deriving DecidableEq

namespace Call

/-- The header that `createMsgHeader` fills in. -/
def header : Call → MsgHeader
  | connectReq token _ => ⟨token, .request, .connect, 0⟩
  | disconnectReq token => ⟨token, .request, .disconnect, 0⟩
  | apduReq token _ _ => ⟨token, .request, .apdu, 0⟩
  | transferAtrReq token => ⟨token, .request, .transferAtr, 0⟩
  | powerReq token _ => ⟨token, .request, .power, 0⟩
  | resetSimReq token => ⟨token, .request, .resetSim, 0⟩
  | transferCardReaderStatusReq token => ⟨token, .request, .transferCardReaderStatus, 0⟩
  | setTransferProtocolReq token _ => ⟨token, .request, .setTransferProtocol, 0⟩

/-- The bytes nested in the request. -/
def command : Call → List UInt8
  | apduReq _ _ command => command
  | _ => []

def program (fails : Point → Bool) : Call → Program Outcome
  | apduReq _ _ command => Sap.apduReq fails command
  | _ => plainReq fails

end Call

/-! ## State -/

/-- Where the thread of the method is: before `free(msg->payload)`, before `free(reqPtr)`, or
returned. -/
inductive Thread where
  | dispatching
  | freeing
  | returned
  deriving DecidableEq

/-- Where the request is: `failed` and `dropped` as in `Outcome`; on the queue, and then handed
to the vendor; or answered by the vendor. -/
inductive Stage where
  | failed
  | dropped
  | pending
  | handed
  | completed
  deriving DecidableEq

structure Request where
  call : Call
  thread : Thread
  stage : Stage
  deriving DecidableEq

/-- `pending` and `completed` are records beside the code's data: the requests that wait for the
vendor, the newest first, and those it has answered, in that order. -/
structure State where
  /-- the requests so far; they are numbered from zero -/
  issued : ℕ
  requests : ℕ → Option Request
  pendingResponseQueue : RilQueue ℕ
  ledgers : ℕ → Ledger Block
  /-- what `processResponse` was handed, in order -/
  answers : List MsgHeader
  pending : List ℕ
  completed : List ℕ

def State.init : State := ⟨0, fun _ => none, RilQueue.empty, fun _ => [], [], [], []⟩

/-! ## Steps -/

/-- A method is called, up to the call of `onRequest` if there is one: `uimFuncs` says whether the
socket has the functions of the vendor. -/
def request (s : State) (call : Call) (fails : Point → Bool) (uimFuncs : Bool) : State :=
  let r := s.issued
  let run := (call.program fails).run []
  match run.1 with
  | .failed => { s with
      issued := r + 1
      requests := Function.update s.requests r (some ⟨call, .returned, .failed⟩)
      ledgers := Function.update s.ledgers r run.2 }
  | .dropped => { s with
      issued := r + 1
      requests := Function.update s.requests r (some ⟨call, .dispatching, .dropped⟩)
      ledgers := Function.update s.ledgers r run.2 }
  | .queued => { s with
      issued := r + 1
      requests := Function.update s.requests r
        (some ⟨call, .dispatching, if uimFuncs then .handed else .pending⟩)
      ledgers := Function.update s.ledgers r
        (if uimFuncs then .touch .payload :: .touch .header :: run.2 else run.2)
      pendingResponseQueue := s.pendingResponseQueue.enqueue r
      pending := r :: s.pending }

/-- `free(msg->payload)` at the end of `addPayloadAndDispatchRequest`. -/
def freePayload (s : State) (r : ℕ) (x : Request) : State :=
  { s with
    requests := Function.update s.requests r (some { x with thread := .freeing })
    ledgers := Function.update s.ledgers r (.free .payload :: .touch .header :: s.ledgers r) }

/-- `free(reqPtr)` -/
def freeBuffer (s : State) (r : ℕ) (x : Request) : State :=
  { s with
    requests := Function.update s.requests r (some { x with thread := .returned })
    ledgers := Function.update s.ledgers r (.free .buffer :: s.ledgers r) }

/-- The two comparisons of `checkAndDequeue` with the element of request `a`. -/
def State.sameToken (s : State) (key : MsgHeader) (a : ℕ) : Bool :=
  (s.requests a).any fun y => decide (key.token = y.call.header.token)

def State.sameId (s : State) (key : MsgHeader) (a : ℕ) : Bool :=
  (s.requests a).any fun y => decide (key.id = y.call.header.id)

def State.isKey (s : State) (key : MsgHeader) (a : ℕ) : Bool :=
  s.sameToken key a && s.sameId key a

/-- What the comparison with one element reads: the header only when the token is the same. -/
def State.compare (s : State) (key : MsgHeader) (ledgers : ℕ → Ledger Block) (a : ℕ) :
    ℕ → Ledger Block :=
  Function.update ledgers a
    (if s.sameToken key a then .touch .header :: .touch .request :: ledgers a
      else .touch .request :: ledgers a)

/-- `RilSapSocket::onRequestComplete` for request `r`; `allocated` says whether there is memory for
the response. -/
def onRequestComplete (s : State) (r : ℕ) (x : Request) (e : ℤ) (allocated : Bool) : State :=
  let key := x.call.header
  let rsp : MsgHeader := { key with type := .response, error := e }
  let found := s.pendingResponseQueue.checkAndDequeue s.issued (s.isKey key)
  let read := Function.update s.ledgers r (.touch .header :: .touch .request :: s.ledgers r)
  let searched :=
    (s.pendingResponseQueue.compared s.issued (s.isKey key)).foldl (s.compare key) read
  let dequeued :=
    match found.1 with
    | none => searched
    | some temp => Function.update searched temp (.free .request :: searched temp)
  { s with
    requests := Function.update s.requests r (some { x with stage := .completed })
    pendingResponseQueue := found.2
    ledgers := Function.update dequeued r (.free .header :: dequeued r)
    answers := s.answers ++ if allocated then [rsp] else []
    pending := s.pending.erase r
    completed := s.completed ++ [r] }

/-- What can happen next.  The vendor answers each request that it was handed at most once. -/
inductive Event where
  | request (call : Call) (fails : Point → Bool) (uimFuncs : Bool)
  | freePayload (r : ℕ)
  | freeBuffer (r : ℕ)
  | complete (r : ℕ) (e : ℤ) (allocated : Bool)

def step (s : State) : Event → Option State
  | .request call fails uimFuncs => some (request s call fails uimFuncs)
  | .freePayload r => (s.requests r).bind fun x =>
      if x.thread = .dispatching then some (freePayload s r x) else none
  | .freeBuffer r => (s.requests r).bind fun x =>
      if x.thread = .freeing then some (freeBuffer s r x) else none
  | .complete r e allocated => (s.requests r).bind fun x =>
      if x.stage = .handed then some (onRequestComplete s r x e allocated) else none

/-- What a step can do. -/
theorem step_cases {s s' : State} {e : Event} (hs : step s e = some s') :
    (∃ call fails uimFuncs, e = .request call fails uimFuncs ∧
        s' = request s call fails uimFuncs) ∨
      (∃ r x, e = .freePayload r ∧ s.requests r = some x ∧ x.thread = .dispatching ∧
        s' = freePayload s r x) ∨
      (∃ r x, e = .freeBuffer r ∧ s.requests r = some x ∧ x.thread = .freeing ∧
        s' = freeBuffer s r x) ∨
      ∃ r err allocated x, e = .complete r err allocated ∧ s.requests r = some x ∧
        x.stage = .handed ∧ s' = onRequestComplete s r x err allocated := by
  cases e with
  | request call fails uimFuncs =>
      exact .inl ⟨call, fails, uimFuncs, rfl, (Option.some.inj hs).symm⟩
  | freePayload r =>
      obtain ⟨x, hx, hs⟩ := Option.bind_eq_some_iff.1 hs
      split at hs
      · rename_i hthread
        exact .inr (.inl ⟨r, x, rfl, hx, hthread, (Option.some.inj hs).symm⟩)
      · exact nomatch hs
  | freeBuffer r =>
      obtain ⟨x, hx, hs⟩ := Option.bind_eq_some_iff.1 hs
      split at hs
      · rename_i hthread
        exact .inr (.inr (.inl ⟨r, x, rfl, hx, hthread, (Option.some.inj hs).symm⟩))
      · exact nomatch hs
  | complete r err allocated =>
      obtain ⟨x, hx, hs⟩ := Option.bind_eq_some_iff.1 hs
      split at hs
      · rename_i hstage
        exact .inr (.inr (.inr ⟨r, err, allocated, x, rfl, hx, hstage,
          (Option.some.inj hs).symm⟩))
      · exact nomatch hs

/-- A call adds its own request, and completes none. -/
theorem request_records (s : State) (call : Call) (fails : Point → Bool) (uimFuncs : Bool) :
    (∃ x, (request s call fails uimFuncs).requests = Function.update s.requests s.issued (some x) ∧
        x.call = call) ∧
      (request s call fails uimFuncs).completed = s.completed ∧
      (request s call fails uimFuncs).answers = s.answers := by
  cases houtcome : ((call.program fails).run []).1 with
  | failed =>
      rw [request, houtcome]
      exact ⟨⟨_, rfl, rfl⟩, rfl, rfl⟩
  | dropped =>
      rw [request, houtcome]
      exact ⟨⟨_, rfl, rfl⟩, rfl, rfl⟩
  | queued =>
      rw [request, houtcome]
      exact ⟨⟨_, rfl, rfl⟩, rfl, rfl⟩

end Sap
