/-
# The SAP services of two SIM cards (`RilSapSocket.cpp`, `sap_service.cpp`, `ril.cpp`)

Each slot has a `SapImpl` with the callback of its client, and a `RilSapSocket` on a list that is
searched by id.  A request goes from the service of its slot to the socket whose id the service
keeps; the vendor answers with the address of the `SapSocketRequest`, in which the socket has left
its id; the answer goes to the service that `getSapImpl` has for the socket.

* `System`, `step` : the list, the services and their clients, the requests that the vendor has;
* `project` : what an event is for one socket, which alone runs as `Sap.step`;
* `slots_served` : no slot is served by another, and each socket is as if it were alone.

A step is atomic.  `crashed` records a read through a null pointer, after which nothing happens.
-/
import Ct07.Lib.Component
import Ct07.Sap.Ownership
import Ct07.Sap.Response

open PartialStep
open Sap.Completeness (BytesArray)
open Sap.Response (Callback Decoder)

namespace Sap.Sockets

/-! ## The list of sockets -/

/-- `RIL_SOCKET_ID`, in a build for two SIM cards. -/
inductive RilSocketId where
  | socket1
  | socket2
  deriving DecidableEq

/-- `RIL1_SERVICE_NAME` -/
def ril1ServiceName : String := "slot1"

/-- `RIL2_SERVICE_NAME` -/
def ril2ServiceName : String := "slot2"

/-- `RilSapSocket`, with the requests that it has dispatched. -/
structure RilSapSocket where
  name : String
  id : RilSocketId
  uimFuncs : Bool
  state : State

/-- `RilSapSocket::SocketExists` -/
def socketExists (head : List RilSapSocket) (socketName : String) : Bool :=
  head.any fun sock => decide (sock.name = socketName)

/-- `RilSapSocket::addSocketToList`; `oom` says that there is no memory for the item. -/
def addSocketToList (head : List RilSapSocket) (socketName : String) (socketId : RilSocketId)
    (uimFuncs oom : Bool) : List RilSapSocket :=
  if socketExists head socketName || oom then head
  else head ++ [⟨socketName, socketId, uimFuncs, State.init⟩]

/-- `RilSapSocket::initSapSocket` -/
def initSapSocket (head : List RilSapSocket) (socketName : String) (uimFuncs oom : Bool) :
    List RilSapSocket :=
  let first :=
    if socketName = ril1ServiceName ∧ ¬ socketExists head socketName then
      addSocketToList head socketName .socket1 uimFuncs oom
    else head
  if socketName = ril2ServiceName ∧ ¬ socketExists first socketName then
    addSocketToList first socketName .socket2 uimFuncs oom
  else first

/-- `RilSapSocket::getSocketById` -/
def getSocketById (head : List RilSapSocket) (socketId : RilSocketId) : Option RilSapSocket :=
  head.find? fun sock => decide (socketId = sock.id)

/-- The socket that `getSocketById` returns goes on to `s`. -/
def setState (socketId : RilSocketId) (s : State) : List RilSapSocket → List RilSapSocket
  | [] => []
  | sock :: head =>
      if socketId = sock.id then { sock with state := s } :: head
      else sock :: setState socketId s head

/-! ## State -/

/-- `SapImpl`; a client is a number. -/
structure SapImpl where
  slotId : ℕ
  rilSocketId : RilSocketId
  sapCallback : Option ℕ

/-- `SapSocketRequest`, for the socket's request of the number `request`; `slot` records the
service that it came from. -/
structure SapSocketRequest where
  slot : ℕ
  socketId : RilSocketId
  request : ℕ

/-- Why a client is called: a request failed, the vendor answered one, or had news. -/
inductive Cause where
  | failed (call : Call)
  | answered (t : ℕ)
  | unsolicited

/-- The request that the vendor answered. -/
def Cause.token : Cause → Option ℕ
  | .answered t => some t
  | _ => none

structure Told where
  slot : ℕ
  client : ℕ
  cause : Cause
  callback : Callback

/-- `lost` records the answers for which there was no socket. -/
structure System where
  head : List RilSapSocket
  sapService : ℕ → Option SapImpl
  /-- the addresses that the vendor was handed; a `RIL_Token` is a position -/
  tokens : List SapSocketRequest
  told : List Told
  lost : List ℕ
  crashed : Bool

def System.init : System := ⟨[], fun _ => none, [], [], [], false⟩

/-- What the socket of an id has dispatched, nothing if it is not there. -/
def System.socket (S : System) (id : RilSocketId) : State :=
  ((getSocketById S.head id).map (·.state)).getD State.init

/-! ## Telling the client -/

/-- `socketIds` -/
def socketIds : List RilSocketId := [.socket1, .socket2]

/-- `getSapImpl` -/
def System.getSapImpl (S : System) : RilSocketId → Option SapImpl
  | .socket1 => S.sapService 0
  | .socket2 => S.sapService 1

/-- A method of `sapCallback` is called, and then `checkReturnStatus`: the callback of a client
that is not alive is dropped. -/
def System.tell (S : System) (impl : SapImpl) (cause : Cause) (callback : Callback) (alive : Bool) :
    System :=
  match impl.sapCallback with
  | none => { S with crashed := true }
  | some client => { S with
      told := S.told ++ [⟨impl.slotId, client, cause, callback⟩]
      sapService := if alive then S.sapService else
        Function.update S.sapService impl.slotId (some { impl with sapCallback := none }) }

/-- `processResponse`, for a payload that was copied from `data`. -/
def System.processResponse (decode : Decoder) (S : System) (socketId : RilSocketId) (cause : Cause)
    (token : ℤ) (id : Response.MsgId) (type : Response.MsgType) (data : List UInt8)
    (allocated alive : Bool) : System :=
  match S.getSapImpl socketId with
  | none => { S with crashed := true }
  | some impl =>
      let payload : BytesArray := ⟨UInt16.ofNat data.length, data⟩
      match Response.processResponse decode allocated impl.sapCallback.isSome token id type
          payload.content with
      | .error _ => { S with crashed := true }
      | .ok none => S
      | .ok (some callback) => S.tell impl cause callback alive

/-! ## Steps -/

/-- The socket of an id takes a step. -/
def System.socketStep (S : System) (socketId : RilSocketId) (e : Sap.Event) : Option System :=
  (getSocketById S.head socketId).bind fun sock =>
    (Sap.step sock.state e).map fun s => { S with head := setState socketId s S.head }

/-- The loop body of `sap::registerService`. -/
def registerService (S : System) (i : ℕ) : Option System :=
  (socketIds[i]?).map fun socketId =>
    { S with sapService := Function.update S.sapService i (some ⟨i, socketId, none⟩) }

/-- `SapImpl::setCallback` -/
def setCallback (S : System) (i : ℕ) (sapCallbackParam : Option ℕ) : Option System :=
  (S.sapService i).map fun impl =>
    { S with sapService :=
        Function.update S.sapService i (some { impl with sapCallback := sapCallbackParam }) }

/-- What a request does when nothing but the calls in `fails` fails, and the search for the socket
if it is not there. -/
def outcome (call : Call) (fails : Point → Bool) (found : Bool) : Outcome :=
  ((call.program (Function.update fails .socket (!found))).run []).1

/-- The request is with the vendor, or not. -/
def hand (i : ℕ) (sock : RilSapSocket) (out : Outcome) : List SapSocketRequest :=
  if out = .queued ∧ sock.uimFuncs then [⟨i, sock.id, sock.state.issued⟩] else []

/-- A request, up to `onRequest`.  The socket is not touched if it is not there. -/
def dispatch (S : System) (i : ℕ) (impl : SapImpl) (call : Call) (fails : Point → Bool) :
    Option System :=
  match getSocketById S.head impl.rilSocketId with
  | none => some S
  | some sock =>
      let tokens := S.tokens ++ hand i sock (outcome call fails true)
      (S.socketStep impl.rilSocketId
        (.request call (Function.update fails .socket false) sock.uimFuncs)).map
          fun S' => { S' with tokens := tokens }

/-- `sendFailedResponse`, if the request has failed. -/
def answerFailure (S : System) (impl : SapImpl) (call : Call) (out : Outcome) (alive : Bool) :
    System :=
  if out = .failed then
    match Response.sendFailedResponse call.header.token (.ofRequest call.header.id) with
    | none => S
    | some callback => S.tell impl (.failed call) callback alive
  else S

/-- `RilSapSocket::sOnRequestComplete` -/
def sOnRequestComplete (decode : Decoder) (S : System) (t : ℕ) (e : ℤ) (response : List UInt8)
    (payloadAllocated allocated alive : Bool) : Option System :=
  (S.tokens[t]?).bind fun req =>
    match getSocketById S.head req.socketId with
    | none => some { S with lost := S.lost ++ [t] }
    | some sock =>
        (sock.state.requests req.request).bind fun x =>
          (S.socketStep req.socketId (.complete req.request e payloadAllocated)).map fun S' =>
            if payloadAllocated then
              S'.processResponse decode sock.id (.answered t) x.call.header.token
                (.ofRequest x.call.header.id) .response response allocated alive
            else S'

/-- `RilSapSocket::sOnUnsolicitedResponse`; the token of the message is not set. -/
def sOnUnsolicitedResponse (decode : Decoder) (S : System) (socketId : RilSocketId)
    (unsolResponse : Response.MsgId) (token : ℤ) (data : List UInt8)
    (payloadAllocated allocated alive : Bool) : System :=
  match getSocketById S.head socketId with
  | none => S
  | some sock =>
      if data ≠ [] ∧ payloadAllocated then
        S.processResponse decode sock.id .unsolicited token unsolResponse .unsolResponse data
          allocated alive
      else S

/-- What can happen next, in any thread. -/
inductive Event where
  | initSapSocket (socketName : String) (uimFuncs oom : Bool)
  | registerService (i : ℕ)
  | setCallback (i : ℕ) (client : Option ℕ)
  | request (i : ℕ) (call : Call) (fails : Point → Bool) (alive : Bool)
  | freePayload (socketId : RilSocketId) (r : ℕ)
  | freeBuffer (socketId : RilSocketId) (r : ℕ)
  | complete (t : ℕ) (e : ℤ) (response : List UInt8) (payloadAllocated allocated alive : Bool)
  | unsolicited (socketId : RilSocketId) (unsolResponse : Response.MsgId) (token : ℤ)
      (data : List UInt8) (payloadAllocated allocated alive : Bool)

/-- What happens while nothing has crashed. -/
def act (decode : Decoder) (S : System) : Event → Option System
  | .initSapSocket socketName uimFuncs oom =>
      some { S with head := Sockets.initSapSocket S.head socketName uimFuncs oom }
  | .registerService i => Sockets.registerService S i
  | .setCallback i client => Sockets.setCallback S i client
  | .request i call fails alive =>
      (S.sapService i).bind fun impl =>
        (dispatch S i impl call fails).map fun S' =>
          answerFailure S' impl call
            (outcome call fails (getSocketById S.head impl.rilSocketId).isSome) alive
  | .freePayload socketId r => S.socketStep socketId (.freePayload r)
  | .freeBuffer socketId r => S.socketStep socketId (.freeBuffer r)
  | .complete t e response payloadAllocated allocated alive =>
      sOnRequestComplete decode S t e response payloadAllocated allocated alive
  | .unsolicited socketId unsolResponse token data payloadAllocated allocated alive =>
      some (sOnUnsolicitedResponse decode S socketId unsolResponse token data payloadAllocated
        allocated alive)

def step (decode : Decoder) (S : System) (e : Event) : Option System :=
  if S.crashed then none else act decode S e

/-- What an event is for the socket of an id. -/
def project (id : RilSocketId) (S : System) : Event → Option Sap.Event
  | .request i call fails _ =>
      (S.sapService i).bind fun impl =>
        if impl.rilSocketId = id then
          (getSocketById S.head id).map fun sock =>
            .request call (Function.update fails .socket false) sock.uimFuncs
        else none
  | .freePayload socketId r => if socketId = id then some (.freePayload r) else none
  | .freeBuffer socketId r => if socketId = id then some (.freeBuffer r) else none
  | .complete t e _ payloadAllocated _ _ =>
      (S.tokens[t]?).bind fun req =>
        if req.socketId = id then
          (getSocketById S.head id).map fun _ => .complete req.request e payloadAllocated
        else none
  | _ => none

/-! ## The properties -/

/-- The name of a socket. -/
def serviceName : RilSocketId → String
  | .socket1 => ril1ServiceName
  | .socket2 => ril2ServiceName

/-- The response to a request, with its token and of its id, whatever the message. -/
def IsResponse (hdr : MsgHeader) (callback : Callback) : Prop :=
  ∃ message, Response.callback hdr.token (.ofRequest hdr.id) .response message =
    .ok (some callback)

/-- A response of the vendor that was told is to a request of the slot which was told, and each
request has one at most; a failure was told with the token of the request; and no answer was
without a socket, of which there is one for an id. -/
structure System.Routed (S : System) : Prop where
  answered : ∀ m ∈ S.told, ∀ t, m.cause = .answered t →
    ∃ req x, S.tokens[t]? = some req ∧ req.slot = m.slot ∧
      (S.socket req.socketId).requests req.request = some x ∧ x.stage = .completed ∧
        IsResponse x.call.header m.callback
  once : (S.told.filterMap (·.cause.token)).Nodup
  failed : ∀ m ∈ S.told, ∀ call, m.cause = .failed call →
    Response.sendFailedResponse call.header.token (.ofRequest call.header.id) = some m.callback
  found : S.lost = []
  ids : (S.head.map (·.id)).Nodup

/-- The message can be used: it is decoded, or none of its fields is read. -/
def Readable (decode : Decoder) (allocated : Bool) (id : Response.MsgId) (type : Response.MsgType)
    (data : List UInt8) : Prop :=
  Response.readsFields id type = true → (Response.sapDecodeMessage decode allocated id type
    (⟨UInt16.ofNat data.length, data⟩ : BytesArray).content).isSome

/-- A request that fails has a client to be told; an answer for a slot with a client is readable;
and news for a socket that is there come after the registration of its service. -/
def Event.Safe (decode : Decoder) (S : System) : Event → Prop
  | .request i call fails _ => ∀ impl ∈ S.sapService i,
      outcome call fails (getSocketById S.head impl.rilSocketId).isSome = .failed →
        impl.sapCallback ≠ none
  | .complete t _ response payloadAllocated allocated _ => payloadAllocated = true →
      ∀ req ∈ S.tokens[t]?, ∀ impl ∈ S.sapService req.slot, impl.sapCallback ≠ none →
        ∀ x ∈ (S.socket req.socketId).requests req.request,
          Readable decode allocated (.ofRequest x.call.header.id) .response response
  | .unsolicited socketId unsolResponse _ data payloadAllocated allocated _ =>
      (getSocketById S.head socketId).isSome → data ≠ [] → payloadAllocated = true →
        ∃ impl, S.getSapImpl socketId = some impl ∧ (impl.sapCallback ≠ none →
          Readable decode allocated unsolResponse .unsolResponse data)
  | _ => True

/-! ## The list of sockets -/

section List

variable {head : List RilSapSocket} {id id' : RilSocketId} {sock : RilSapSocket} {s : State}

theorem getSocketById_id (h : getSocketById head id = some sock) : sock.id = id := by
  have htest := List.find?_some h
  exact (of_decide_eq_true htest).symm

theorem getSocketById_setState :
    getSocketById (setState id s head) id' =
      if id' = id then (getSocketById head id).map fun sock => { sock with state := s }
      else getSocketById head id' := by
  induction head with
  | nil => simp [getSocketById, setState]
  | cons sock head ih =>
      unfold getSocketById at ih ⊢
      unfold setState
      by_cases hid : id = sock.id
      · subst hid
        by_cases hid' : id' = sock.id
        · subst hid'
          simp
        · simp [hid']
      · rw [if_neg hid, List.find?_cons, List.find?_cons, List.find?_cons, ih]
        by_cases hid' : id' = sock.id
        · simp [hid', Ne.symm hid]
        · by_cases heq : id' = id
          · simp [heq, hid]
          · simp [hid', heq]

/-- The names and the ids of the sockets, in order. -/
def namesOf (head : List RilSapSocket) : List (String × RilSocketId) :=
  head.map fun sock => (sock.name, sock.id)

theorem namesOf_setState : namesOf (setState id s head) = namesOf head := by
  unfold namesOf
  induction head with
  | nil => rfl
  | cons sock head ih =>
      unfold setState
      split
      · rfl
      · rw [List.map_cons, List.map_cons, ih]

theorem getSocketById_append :
    getSocketById (head ++ [sock]) id =
      (getSocketById head id).or (if id = sock.id then some sock else none) := by
  unfold getSocketById
  rw [List.find?_append]
  by_cases hid : id = sock.id
  · simp [hid]
  · simp [hid]

/-- A socket is added when there is none of its name. -/
theorem initSapSocket_cases (head : List RilSapSocket) (socketName : String) (uimFuncs oom : Bool) :
    initSapSocket head socketName uimFuncs oom = head ∨
      ∃ id, socketExists head (serviceName id) = false ∧
        initSapSocket head socketName uimFuncs oom =
          head ++ [⟨serviceName id, id, uimFuncs, State.init⟩] := by
  have hne : ril1ServiceName ≠ ril2ServiceName := by decide
  unfold initSapSocket addSocketToList
  by_cases hfirst : socketName = ril1ServiceName
  · subst hfirst
    simp only [hne, false_and, if_false, true_and]
    cases hexists : socketExists head ril1ServiceName with
    | true => simp
    | false =>
        cases oom with
        | true => simp
        | false => exact Or.inr ⟨.socket1, hexists, by simp [serviceName]⟩
  · by_cases hsecond : socketName = ril2ServiceName
    · subst hsecond
      simp only [hfirst, false_and, if_false, true_and]
      cases hexists : socketExists head ril2ServiceName with
      | true => simp
      | false =>
          cases oom with
          | true => simp
          | false => exact Or.inr ⟨.socket2, hexists, by simp [serviceName]⟩
    · simp [hfirst, hsecond]

end List

/-! ## One socket among the others -/

section Socket

variable {S S' : System} {id id' : RilSocketId} {sock : RilSapSocket} {s : State}

theorem socket_eq (h : getSocketById S.head id = some sock) : S.socket id = sock.state := by
  rw [System.socket, h]
  rfl

theorem socket_none (h : getSocketById S.head id = none) : S.socket id = State.init := by
  rw [System.socket, h]
  rfl

theorem socketStep_eq_some {e : Sap.Event} (h : S.socketStep id e = some S') :
    ∃ sock s, getSocketById S.head id = some sock ∧ Sap.step (S.socket id) e = some s ∧
      S' = { S with head := setState id s S.head } := by
  obtain ⟨sock, hsock, h⟩ := Option.bind_eq_some_iff.1 h
  obtain ⟨s, hs, rfl⟩ := Option.map_eq_some_iff.1 h
  rw [← socket_eq hsock] at hs
  exact ⟨sock, s, hsock, hs, rfl⟩

theorem socket_setState (h : getSocketById S.head id = some sock)
    (hhead : S'.head = setState id s S.head) :
    S'.socket id' = if id' = id then s else S.socket id' := by
  unfold System.socket
  rw [hhead, getSocketById_setState, h]
  split <;> rfl

theorem socket_congr (h : S'.head = S.head) : S'.socket = S.socket := by
  funext id
  rw [System.socket, System.socket, h]

theorem tell_head (impl : SapImpl) (cause : Cause) (callback : Callback) (alive : Bool) :
    (S.tell impl cause callback alive).head = S.head := by
  unfold System.tell
  split <;> rfl

theorem processResponse_head (decode : Decoder) (cause : Cause) (token : ℤ)
    (msgId : Response.MsgId) (type : Response.MsgType) (data : List UInt8)
    (allocated alive : Bool) :
    (S.processResponse decode id cause token msgId type data allocated alive).head = S.head := by
  unfold System.processResponse
  split
  · rfl
  · dsimp only
    split
    · rfl
    · rfl
    · exact tell_head _ _ _ _

theorem answerFailure_head (impl : SapImpl) (call : Call) (out : Outcome) (alive : Bool) :
    (answerFailure S impl call out alive).head = S.head := by
  unfold answerFailure
  split
  · split
    · rfl
    · exact tell_head _ _ _ _
  · rfl

/-- A request changes the list, and what the vendor has, if its socket is there. -/
theorem dispatch_cases {i : ℕ} {impl : SapImpl} {call : Call} {fails : Point → Bool}
    (h : dispatch S i impl call fails = some S') :
    (getSocketById S.head impl.rilSocketId = none ∧ S' = S) ∨
      ∃ sock s, getSocketById S.head impl.rilSocketId = some sock ∧
        Sap.step (S.socket impl.rilSocketId)
          (.request call (Function.update fails .socket false) sock.uimFuncs) = some s ∧
        S' = { S with
          head := setState impl.rilSocketId s S.head
          tokens := S.tokens ++ hand i sock (outcome call fails true) } := by
  unfold dispatch at h
  split at h
  · rename_i hnone
    exact Or.inl ⟨hnone, (Option.some.inj h).symm⟩
  · rename_i sock hsock
    obtain ⟨T, hT, rfl⟩ := Option.map_eq_some_iff.1 h
    obtain ⟨sock', s, hsock', hs, rfl⟩ := socketStep_eq_some hT
    exact Or.inr ⟨sock, s, hsock, hs, rfl⟩

/-- An answer changes the socket that the request was dispatched on. -/
theorem sOnRequestComplete_cases {decode : Decoder} {t : ℕ} {e : ℤ} {response : List UInt8}
    {payloadAllocated allocated alive : Bool}
    (h : sOnRequestComplete decode S t e response payloadAllocated allocated alive = some S') :
    ∃ req, S.tokens[t]? = some req ∧
      ((getSocketById S.head req.socketId = none ∧ S' = { S with lost := S.lost ++ [t] }) ∨
        ∃ sock x s, getSocketById S.head req.socketId = some sock ∧
          (S.socket req.socketId).requests req.request = some x ∧
          Sap.step (S.socket req.socketId) (.complete req.request e payloadAllocated) = some s ∧
          S' = if payloadAllocated then
              ({ S with head := setState req.socketId s S.head }).processResponse decode
                req.socketId (.answered t) x.call.header.token (.ofRequest x.call.header.id)
                .response response allocated alive
            else { S with head := setState req.socketId s S.head }) := by
  obtain ⟨req, hreq, h⟩ := Option.bind_eq_some_iff.1 h
  refine ⟨req, hreq, ?_⟩
  split at h
  · rename_i hnone
    exact Or.inl ⟨hnone, (Option.some.inj h).symm⟩
  · rename_i sock hsock
    obtain ⟨x, hx, h⟩ := Option.bind_eq_some_iff.1 h
    obtain ⟨T, hT, rfl⟩ := Option.map_eq_some_iff.1 h
    obtain ⟨sock', s, hsock', hs, rfl⟩ := socketStep_eq_some hT
    rw [← socket_eq hsock] at hx
    rw [getSocketById_id hsock]
    exact Or.inr ⟨sock, x, s, hsock, hx, hs, rfl⟩

theorem act_of_step {decode : Decoder} {e : Event} (h : step decode S e = some S') :
    S.crashed = false ∧ act decode S e = some S' := by
  unfold step at h
  split at h
  · cases h
  · rename_i hcrashed
    exact ⟨Bool.not_eq_true _ ▸ hcrashed, h⟩

/-- The socket of the id takes its step, and the other one none. -/
theorem setState_moves {e : Sap.Event} (hsock : getSocketById S.head id' = some sock)
    (hs : Sap.step (S.socket id') e = some s) (hhead : S'.head = setState id' s S.head) :
    Moves Sap.step (S.socket id) (if id' = id then some e else none) (S'.socket id) := by
  rw [socket_setState hsock hhead]
  by_cases hid : id' = id
  · subst hid
    rw [if_pos rfl, if_pos rfl]
    exact hs
  · rw [if_neg hid, if_neg (Ne.symm hid)]
    rfl

theorem socketStep_moves {e : Sap.Event} (h : S.socketStep id' e = some S') :
    Moves Sap.step (S.socket id) (if id' = id then some e else none) (S'.socket id) := by
  obtain ⟨sock, s, hsock, hs, rfl⟩ := socketStep_eq_some h
  exact setState_moves hsock hs rfl

/-- What is an event for a socket that is there. -/
theorem ite_map_eq {e : Sap.Event} (hsock : getSocketById S.head id' = some sock)
    {event : RilSapSocket → Sap.Event} (he : event sock = e) :
    (if id' = id then (getSocketById S.head id).map event else none) =
      if id' = id then some e else none := by
  by_cases hid : id' = id
  · subst hid
    rw [hsock, ← he]
    rfl
  · rw [if_neg hid, if_neg hid]

theorem ite_map_none {event : RilSapSocket → Sap.Event}
    (hsock : getSocketById S.head id' = none) :
    (if id' = id then (getSocketById S.head id).map event else none) = none := by
  by_cases hid : id' = id
  · subst hid
    rw [if_pos rfl, hsock]
    rfl
  · rw [if_neg hid]

/-- Each socket is a part of the system: it takes the steps of its own events, and no others. -/
theorem socket_follows (decode : Decoder) (id : RilSocketId) :
    Follows (step decode) Sap.step (fun S => S.socket id) (project id) := by
  intro S e S' h
  obtain ⟨-, h⟩ := act_of_step h
  show Moves Sap.step (S.socket id) (project id S e) (S'.socket id)
  cases e with
  | initSapSocket socketName uimFuncs oom =>
      cases Option.some.inj h
      show System.socket _ id = S.socket id
      obtain heq | ⟨id', hexists, heq⟩ := initSapSocket_cases S.head socketName uimFuncs oom
      · exact congrFun (socket_congr heq) id
      · unfold System.socket
        rw [heq, getSocketById_append]
        cases getSocketById S.head id with
        | some sock => rfl
        | none =>
            by_cases hid : id = id'
            · simp [hid]
            · simp [hid]
  | registerService i =>
      obtain ⟨socketId, hsocketId, rfl⟩ := Option.map_eq_some_iff.1 h
      exact congrFun (socket_congr rfl) id
  | setCallback i client =>
      obtain ⟨impl, himpl, rfl⟩ := Option.map_eq_some_iff.1 h
      exact congrFun (socket_congr rfl) id
  | request i call fails alive =>
      obtain ⟨impl, himpl, h⟩ := Option.bind_eq_some_iff.1 h
      obtain ⟨T, hT, rfl⟩ := Option.map_eq_some_iff.1 h
      rw [project, himpl, Option.bind_some, socket_congr (answerFailure_head ..)]
      obtain ⟨hnone, rfl⟩ | ⟨sock, s, hsock, hs, rfl⟩ := dispatch_cases hT
      · rw [ite_map_none hnone]
        rfl
      · rw [ite_map_eq hsock rfl]
        exact setState_moves hsock hs rfl
  | freePayload socketId r => exact socketStep_moves h
  | freeBuffer socketId r => exact socketStep_moves h
  | complete t err response payloadAllocated allocated alive =>
      obtain ⟨req, hreq, hcases⟩ := sOnRequestComplete_cases h
      rw [project, hreq, Option.bind_some]
      obtain ⟨hnone, rfl⟩ | ⟨sock, x, s, hsock, hx, hs, rfl⟩ := hcases
      · rw [ite_map_none hnone]
        exact congrFun (socket_congr rfl) id
      · rw [ite_map_eq hsock rfl]
        refine setState_moves hsock hs ?_
        split
        · exact processResponse_head ..
        · rfl
  | unsolicited socketId unsolResponse token data payloadAllocated allocated alive =>
      cases Option.some.inj h
      refine congrFun (socket_congr ?_) id
      unfold sOnUnsolicitedResponse
      split
      · rfl
      · split
        · exact processResponse_head ..
        · rfl

end Socket

/-! ## What a step of a socket keeps -/

section Keeps

variable {s s' : State} {e : Sap.Event}

/-- The numbers of requests to come are free. -/
def Fresh (s : State) : Prop := ∀ r, s.issued ≤ r → s.requests r = none

/-- Requests stay, and what is completed stays so. -/
def Keeps (s s' : State) : Prop :=
  ∀ r x, s.requests r = some x → ∃ x', s'.requests r = some x' ∧ x'.call = x.call ∧
    (x.stage = .completed → x'.stage = .completed)

theorem keeps_update {r : ℕ} {x y : Request} (hx : s.requests r = some x)
    (hrequests : s'.requests = Function.update s.requests r (some y)) (hcall : y.call = x.call)
    (hstage : x.stage = .completed → y.stage = .completed) : Keeps s s' := by
  intro r' x' hx'
  rw [hrequests]
  by_cases hr : r' = r
  · subst hr
    cases Option.some.inj (hx.symm.trans hx')
    exact ⟨y, Function.update_self .., hcall, hstage⟩
  · exact ⟨x', by rw [Function.update_of_ne hr, hx'], rfl, id⟩

theorem fresh_update {r : ℕ} {x y : Request} (hfresh : Fresh s) (hx : s.requests r = some x)
    (hrequests : s'.requests = Function.update s.requests r (some y))
    (hissued : s'.issued = s.issued) : Fresh s' := by
  intro r' hr'
  rw [hissued] at hr'
  have hne : r' ≠ r := by
    rintro rfl
    rw [hfresh r' hr'] at hx
    cases hx
  rw [hrequests, Function.update_of_ne hne, hfresh r' hr']

theorem request_issued (s : State) (call : Call) (fails : Point → Bool) (uimFuncs : Bool) :
    (request s call fails uimFuncs).issued = s.issued + 1 := by
  unfold request
  dsimp only
  split <;> rfl

theorem step_keeps (hfresh : Fresh s) (hs : Sap.step s e = some s') : Fresh s' ∧ Keeps s s' := by
  obtain ⟨call, fails, uimFuncs, -, rfl⟩ | ⟨r, x, -, hx, -, rfl⟩ | ⟨r, x, -, hx, -, rfl⟩ |
    ⟨r, err, allocated, x, -, hx, hstage, rfl⟩ := step_cases hs
  · obtain ⟨⟨y, hrequests, -⟩, -, -⟩ := request_records s call fails uimFuncs
    constructor
    · intro r hr
      rw [request_issued] at hr
      rw [hrequests, Function.update_of_ne (by omega), hfresh r (by omega)]
    · intro r x hx
      have hne : r ≠ s.issued := by
        rintro rfl
        rw [hfresh s.issued (Nat.le_refl _)] at hx
        cases hx
      exact ⟨x, by rw [hrequests, Function.update_of_ne hne, hx], rfl, id⟩
  · exact ⟨fresh_update hfresh hx rfl rfl, keeps_update hx rfl rfl id⟩
  · exact ⟨fresh_update hfresh hx rfl rfl, keeps_update hx rfl rfl id⟩
  · exact ⟨fresh_update hfresh hx rfl rfl, keeps_update hx rfl rfl (fun _ => rfl)⟩

/-- Only a request that the vendor has is completed. -/
theorem complete_request {r : ℕ} {err : ℤ} {allocated : Bool}
    (hs : Sap.step s (.complete r err allocated) = some s') :
    ∃ x, s.requests r = some x ∧ x.stage = .handed ∧
      s'.requests r = some { x with stage := .completed } := by
  obtain ⟨x, hx, hs⟩ := Option.bind_eq_some_iff.1 hs
  split at hs
  · rename_i hstage
    cases Option.some.inj hs
    exact ⟨x, hx, hstage, Function.update_self ..⟩
  · cases hs

end Keeps

/-! ## What a step does to the system -/

section Effect

variable {decode : Decoder} {S S' T : System} {e : Event}

/-- The services have the ids of their slots. -/
def System.InPlace (S : System) : Prop :=
  ∀ i impl, S.sapService i = some impl → impl.slotId = i ∧ socketIds[i]? = some impl.rilSocketId

/-- Services have the id of their slot; requests that the vendor has are those of a registered
service, recorded by the socket of its id. -/
structure System.Wired (S : System) : Prop where
  ids : ((namesOf S.head).map Prod.snd).Nodup
  names : ∀ p ∈ namesOf S.head, p.1 = serviceName p.2
  services : S.InPlace
  fresh : ∀ id, Fresh (S.socket id)
  tokens : ∀ req ∈ S.tokens, socketIds[req.slot]? = some req.socketId ∧
    (S.sapService req.slot).isSome ∧ ((S.socket req.socketId).requests req.request).isSome
  lost : S.lost = []

/-- What an event tells a client. -/
def Event.Tells (S : System) : Event → Told → Prop
  | .request _ call _ _, m => m.cause = .failed call ∧
      Response.sendFailedResponse call.header.token (.ofRequest call.header.id) = some m.callback
  | .complete t _ _ _ _ _, m => m.cause = .answered t ∧ ∃ req x, S.tokens[t]? = some req ∧
      req.slot = m.slot ∧ (S.socket req.socketId).requests req.request = some x ∧
        IsResponse x.call.header m.callback
  | .unsolicited .., m => m.cause = .unsolicited
  | _, _ => False

/-- From `S` to `S'` a client is told something that `P` says, or nothing, and may be dropped. -/
structure Answers (S S' : System) (P : Told → Prop) : Prop where
  head : S'.head = S.head
  tokens : S'.tokens = S.tokens
  lost : S'.lost = S.lost
  services : ∀ i, (S'.sapService i).map (fun impl => (impl.slotId, impl.rilSocketId)) =
    (S.sapService i).map fun impl => (impl.slotId, impl.rilSocketId)
  told : S'.told = S.told ∨ ∃ m, P m ∧ S'.told = S.told ++ [m]

theorem answers_refl (S : System) (P : Told → Prop) : Answers S S P :=
  ⟨rfl, rfl, rfl, fun _ => rfl, Or.inl rfl⟩

theorem answers_crashed (S : System) (P : Told → Prop) : Answers S { S with crashed := true } P :=
  ⟨rfl, rfl, rfl, fun _ => rfl, Or.inl rfl⟩

theorem Answers.mono {P Q : Told → Prop} (h : Answers S S' P) (himp : ∀ m, P m → Q m) :
    Answers S S' Q := by
  refine ⟨h.head, h.tokens, h.lost, h.services, ?_⟩
  obtain htold | ⟨m, hm, htold⟩ := h.told
  · exact Or.inl htold
  · exact Or.inr ⟨m, himp m hm, htold⟩

theorem tell_answers {impl : SapImpl} (himpl : S.sapService impl.slotId = some impl)
    (cause : Cause) (callback : Callback) (alive : Bool) :
    Answers S (S.tell impl cause callback alive) fun m =>
      m.slot = impl.slotId ∧ m.cause = cause ∧ m.callback = callback := by
  unfold System.tell
  split
  · exact answers_crashed S _
  · rename_i client hclient
    refine ⟨rfl, rfl, rfl, fun i => ?_, Or.inr ⟨_, ⟨rfl, rfl, rfl⟩, rfl⟩⟩
    cases alive with
    | true => rfl
    | false =>
        by_cases hi : i = impl.slotId
        · subst hi
          simp [himpl]
        · simp [hi]

theorem getSapImpl_eq_some {id : RilSocketId} {impl : SapImpl} (h : S.getSapImpl id = some impl) :
    ∃ i, socketIds[i]? = some id ∧ S.sapService i = some impl := by
  cases id with
  | socket1 => exact ⟨0, rfl, h⟩
  | socket2 => exact ⟨1, rfl, h⟩

theorem socketIds_injective {i j : ℕ} {id : RilSocketId} (hi : socketIds[i]? = some id)
    (hj : socketIds[j]? = some id) : i = j := by
  have hnodup : socketIds.Nodup := by decide
  obtain ⟨hlt, -⟩ := List.getElem?_eq_some_iff.1 hi
  exact (List.getElem?_inj hlt hnodup).1 (hi.trans hj.symm)

theorem inPlace_update {i : ℕ} {impl : SapImpl} (h : S.InPlace)
    (hS' : S'.sapService = Function.update S.sapService i (some impl)) (hslot : impl.slotId = i)
    (hid : socketIds[i]? = some impl.rilSocketId) : S'.InPlace := by
  intro j impl' himpl'
  rw [hS'] at himpl'
  by_cases hj : j = i
  · subst hj
    rw [Function.update_self] at himpl'
    cases himpl'
    exact ⟨hslot, hid⟩
  · rw [Function.update_of_ne hj] at himpl'
    exact h j impl' himpl'

theorem isSome_update {i : ℕ} {impl : SapImpl} (j : ℕ) (hj : (S.sapService j).isSome) :
    (Function.update S.sapService i (some impl) j).isSome := by
  by_cases hi : j = i
  · subst hi
    rw [Function.update_self]
    rfl
  · rw [Function.update_of_ne hi]
    exact hj

theorem processResponse_answers (hw : S.InPlace) (id : RilSocketId) (cause : Cause) (token : ℤ)
    (msgId : Response.MsgId) (type : Response.MsgType) (data : List UInt8)
    (allocated alive : Bool) :
    Answers S (S.processResponse decode id cause token msgId type data allocated alive) fun m =>
      m.cause = cause ∧ socketIds[m.slot]? = some id ∧
        ∃ message, Response.callback token msgId type message = .ok (some m.callback) := by
  unfold System.processResponse
  split
  · exact answers_crashed S _
  · rename_i impl himpl
    obtain ⟨i, hid, hi⟩ := getSapImpl_eq_some himpl
    obtain ⟨rfl, -⟩ := hw i impl hi
    dsimp only
    split
    · exact answers_crashed S _
    · exact answers_refl S _
    · rename_i callback hcallback
      refine (tell_answers hi cause callback alive).mono ?_
      rintro m ⟨hslot, hcause, rfl⟩
      refine ⟨hcause, hslot ▸ hid, ?_⟩
      unfold Response.processResponse at hcallback
      split at hcallback
      · exact ⟨_, hcallback⟩
      · cases hcallback

theorem answerFailure_answers (impl : SapImpl) (himpl : S.sapService impl.slotId = some impl)
    (call : Call) (out : Outcome) (alive : Bool) :
    Answers S (answerFailure S impl call out alive) fun m => m.cause = .failed call ∧
      Response.sendFailedResponse call.header.token (.ofRequest call.header.id) =
        some m.callback := by
  unfold answerFailure
  split
  · split
    · exact answers_refl S _
    · rename_i callback hcallback
      refine (tell_answers himpl (.failed call) callback alive).mono ?_
      rintro m ⟨-, hcause, rfl⟩
      exact ⟨hcause, hcallback⟩
  · exact answers_refl S _

/-- What a step does to each part of the system. -/
structure Effect (S : System) (e : Event) (S' : System) : Prop where
  names : namesOf S'.head = namesOf S.head ∨
    ∃ id, socketExists S.head (serviceName id) = false ∧
      namesOf S'.head = namesOf S.head ++ [(serviceName id, id)]
  services : S'.InPlace
  registered : ∀ i, (S.sapService i).isSome → (S'.sapService i).isSome
  tokens : S'.tokens = S.tokens ∨ ∃ req, S'.tokens = S.tokens ++ [req] ∧
    socketIds[req.slot]? = some req.socketId ∧ (S.sapService req.slot).isSome ∧
      ((S'.socket req.socketId).requests req.request).isSome
  lost : S'.lost = S.lost
  told : S'.told = S.told ∨ ∃ m, e.Tells S m ∧ S'.told = S.told ++ [m]

/-- A step that takes the list and what the vendor has from `S` to `T`, and then answers. -/
theorem Answers.effect (hw : S.Wired) (h : Answers T S' (e.Tells S))
    (hnames : namesOf T.head = namesOf S.head) (hservices : T.sapService = S.sapService)
    (htokens : T.tokens = S.tokens ∨ ∃ req, T.tokens = S.tokens ++ [req] ∧
      socketIds[req.slot]? = some req.socketId ∧ (S.sapService req.slot).isSome ∧
        ((T.socket req.socketId).requests req.request).isSome)
    (hlost : T.lost = S.lost) (htold : T.told = S.told) : Effect S e S' where
  names := Or.inl (by rw [h.head, hnames])
  services i impl himpl := by
    have hsame := h.services i
    rw [himpl, hservices] at hsame
    obtain ⟨old, hold, heq⟩ := Option.map_eq_some_iff.1 hsame.symm
    obtain ⟨hslot, hsocket⟩ := Prod.mk.inj heq
    rw [← hslot, ← hsocket]
    exact hw.services i old hold
  registered i hi := by
    have hsame := congrArg Option.isSome (h.services i)
    rw [Option.isSome_map, Option.isSome_map, hservices] at hsame
    rw [hsame, hi]
  tokens := by
    rw [h.tokens, socket_congr h.head]
    exact htokens
  lost := by rw [h.lost, hlost]
  told := by
    rw [← htold]
    exact h.told

/-- The vendor has what was handed to it. -/
theorem hand_cases (i : ℕ) (sock : RilSapSocket) (out : Outcome) :
    hand i sock out = [] ∨ hand i sock out = [⟨i, sock.id, sock.state.issued⟩] := by
  unfold hand
  split
  · exact Or.inr rfl
  · exact Or.inl rfl

theorem step_effect (hw : S.Wired) (h : step decode S e = some S') : Effect S e S' := by
  obtain ⟨-, h⟩ := act_of_step h
  cases e with
  | initSapSocket socketName uimFuncs oom =>
      cases Option.some.inj h
      refine ⟨?_, hw.services, fun i hi => hi, Or.inl rfl, rfl, Or.inl rfl⟩
      obtain heq | ⟨id, hexists, heq⟩ := initSapSocket_cases S.head socketName uimFuncs oom
      · exact Or.inl (congrArg namesOf heq)
      · refine Or.inr ⟨id, hexists, ?_⟩
        show namesOf (initSapSocket S.head socketName uimFuncs oom) = _
        rw [heq]
        exact List.map_append
  | registerService i =>
      obtain ⟨socketId, hsocketId, rfl⟩ := Option.map_eq_some_iff.1 h
      exact ⟨Or.inl rfl, inPlace_update hw.services rfl rfl hsocketId, isSome_update, Or.inl rfl,
        rfl, Or.inl rfl⟩
  | setCallback i client =>
      obtain ⟨impl, himpl, rfl⟩ := Option.map_eq_some_iff.1 h
      obtain ⟨hslot, hid⟩ := hw.services i impl himpl
      exact ⟨Or.inl rfl, inPlace_update hw.services rfl hslot hid, isSome_update, Or.inl rfl,
        rfl, Or.inl rfl⟩
  | request i call fails alive =>
      obtain ⟨impl, himpl, h⟩ := Option.bind_eq_some_iff.1 h
      obtain ⟨T, hT, rfl⟩ := Option.map_eq_some_iff.1 h
      obtain ⟨rfl, hsocketId⟩ := hw.services i impl himpl
      obtain ⟨hnone, rfl⟩ | ⟨sock, s, hsock, hs, rfl⟩ := dispatch_cases hT
      · exact (answerFailure_answers impl himpl ..).effect hw rfl rfl (Or.inl rfl) rfl rfl
      · refine Answers.effect hw (answerFailure_answers impl ?_ ..) namesOf_setState rfl ?_ rfl rfl
        · exact himpl
        · obtain hnil | hone := hand_cases impl.slotId sock (outcome call fails true)
          · exact Or.inl (by rw [hnil, List.append_nil])
          · rw [hone, getSocketById_id hsock]
            refine Or.inr ⟨_, rfl, hsocketId, by rw [himpl]; rfl, ?_⟩
            rw [socket_setState hsock rfl, if_pos rfl, ← socket_eq hsock]
            cases Option.some.inj hs
            obtain ⟨⟨x, hrequests, -⟩, -⟩ := request_records (S.socket impl.rilSocketId) call
              (Function.update fails .socket false) sock.uimFuncs
            rw [hrequests, Function.update_self]
            rfl
  | freePayload socketId r =>
      obtain ⟨sock, s, hsock, hs, rfl⟩ := socketStep_eq_some h
      exact (answers_refl _ _).effect hw namesOf_setState rfl (Or.inl rfl) rfl rfl
  | freeBuffer socketId r =>
      obtain ⟨sock, s, hsock, hs, rfl⟩ := socketStep_eq_some h
      exact (answers_refl _ _).effect hw namesOf_setState rfl (Or.inl rfl) rfl rfl
  | complete t err response payloadAllocated allocated alive =>
      obtain ⟨req, hreq, hcases⟩ := sOnRequestComplete_cases h
      obtain ⟨hslot, -, hrequest⟩ := hw.tokens req (List.mem_of_getElem? hreq)
      obtain ⟨hnone, -⟩ | ⟨sock, x, s, hsock, hx, hs, rfl⟩ := hcases
      · rw [socket_none hnone] at hrequest
        cases hrequest
      · split
        · refine Answers.effect hw (Answers.mono (processResponse_answers ?_ ..) ?_)
            namesOf_setState rfl (Or.inl rfl) rfl rfl
          · exact hw.services
          · rintro m ⟨hcause, hid, hmessage⟩
            exact ⟨hcause, req, x, hreq, socketIds_injective hslot hid, hx, hmessage⟩
        · exact (answers_refl _ _).effect hw namesOf_setState rfl (Or.inl rfl) rfl rfl
  | unsolicited socketId unsolResponse token data payloadAllocated allocated alive =>
      cases Option.some.inj h
      unfold sOnUnsolicitedResponse
      split
      · exact (answers_refl _ _).effect hw rfl rfl (Or.inl rfl) rfl rfl
      · split
        · refine Answers.effect hw ((processResponse_answers hw.services ..).mono ?_) rfl rfl
            (Or.inl rfl) rfl rfl
          exact fun m hm => hm.1
        · exact (answers_refl _ _).effect hw rfl rfl (Or.inl rfl) rfl rfl

end Effect

/-! ## Invariants -/

section Invariant

variable {decode : Decoder} {S S' : System} {e : Event}

theorem wired_init : System.init.Wired where
  ids := List.nodup_nil
  names p hp := by cases hp
  services i impl himpl := by cases himpl
  fresh id r _ := rfl
  tokens req hreq := by cases hreq
  lost := rfl

/-- The sockets keep what they have recorded. -/
theorem step_sockets (hw : S.Wired) (h : step decode S e = some S') (id : RilSocketId) :
    Fresh (S'.socket id) ∧ Keeps (S.socket id) (S'.socket id) := by
  have hmoves := socket_follows decode id S e S' h
  cases hproject : project id S e with
  | none =>
      rw [hproject] at hmoves
      rw [show S'.socket id = S.socket id from hmoves]
      exact ⟨hw.fresh id, fun r x hx => ⟨x, hx, rfl, fun hstage => hstage⟩⟩
  | some d =>
      rw [hproject] at hmoves
      exact step_keeps (hw.fresh id) hmoves

theorem step_wired (hw : S.Wired) (h : step decode S e = some S') : S'.Wired := by
  have heffect := step_effect hw h
  have hold : ∀ req ∈ S.tokens, socketIds[req.slot]? = some req.socketId ∧
      (S'.sapService req.slot).isSome ∧ ((S'.socket req.socketId).requests req.request).isSome := by
    intro req hreq
    obtain ⟨hslot, hservice, hrequest⟩ := hw.tokens req hreq
    obtain ⟨x, hx⟩ := Option.isSome_iff_exists.1 hrequest
    obtain ⟨x', hx', -⟩ := (step_sockets hw h req.socketId).2 req.request x hx
    exact ⟨hslot, heffect.registered _ hservice, by rw [hx']; rfl⟩
  constructor
  · obtain heq | ⟨id, hexists, heq⟩ := heffect.names
    · rw [heq]
      exact hw.ids
    · rw [heq, List.map_append, List.nodup_append]
      refine ⟨hw.ids, by simp, ?_⟩
      rintro _ hmem _ hid rfl
      obtain ⟨⟨name, id'⟩, hp, rfl⟩ := List.mem_map.1 hmem
      obtain rfl := List.mem_singleton.1 hid
      obtain ⟨sock, hsock, hsame⟩ := List.mem_map.1 hp
      obtain ⟨rfl, rfl⟩ := Prod.mk.inj hsame
      have hname := hw.names _ hp
      unfold socketExists at hexists
      rw [List.any_eq_false] at hexists
      exact hexists sock hsock (decide_eq_true hname)
  · intro p hp
    obtain heq | ⟨id, hexists, heq⟩ := heffect.names
    · rw [heq] at hp
      exact hw.names p hp
    · rw [heq] at hp
      obtain hp | hp := List.mem_append.1 hp
      · exact hw.names p hp
      · cases List.mem_singleton.1 hp
        rfl
  · exact heffect.services
  · exact fun id => (step_sockets hw h id).1
  · intro req hreq
    obtain htokens | ⟨new, htokens, hslot, hservice, hrequest⟩ := heffect.tokens
    · rw [htokens] at hreq
      exact hold req hreq
    · rw [htokens] at hreq
      obtain hreq | hreq := List.mem_append.1 hreq
      · exact hold req hreq
      · cases List.mem_singleton.1 hreq
        exact ⟨hslot, heffect.registered _ hservice, hrequest⟩
  · rw [heffect.lost, hw.lost]

/-- A request of the vendor stays where it is. -/
theorem tokens_stay (hw : S.Wired) (h : step decode S e = some S') {t : ℕ}
    {req : SapSocketRequest} (hreq : S.tokens[t]? = some req) : S'.tokens[t]? = some req := by
  obtain htokens | ⟨new, htokens, -⟩ := (step_effect hw h).tokens
  · rw [htokens, hreq]
  · obtain ⟨hlt, -⟩ := List.getElem?_eq_some_iff.1 hreq
    rw [htokens, List.getElem?_append_left hlt, hreq]

/-- A completed request was with the vendor. -/
theorem complete_stage {t : ℕ} {err : ℤ} {response : List UInt8}
    {payloadAllocated allocated alive : Bool} {req : SapSocketRequest} (hw : S.Wired)
    (h : step decode S (.complete t err response payloadAllocated allocated alive) = some S')
    (hreq : S.tokens[t]? = some req) :
    ∃ x, (S.socket req.socketId).requests req.request = some x ∧ x.stage = .handed ∧
      (S'.socket req.socketId).requests req.request = some { x with stage := .completed } := by
  have hmoves := socket_follows decode req.socketId S _ S' h
  obtain ⟨-, -, hrequest⟩ := hw.tokens req (List.mem_of_getElem? hreq)
  rw [project, hreq, Option.bind_some, if_pos rfl] at hmoves
  cases hsock : getSocketById S.head req.socketId with
  | none =>
      rw [socket_none hsock] at hrequest
      cases hrequest
  | some sock =>
      rw [hsock] at hmoves
      exact complete_request hmoves

theorem token_eq_some {cause : Cause} {t : ℕ} (h : cause.token = some t) : cause = .answered t := by
  cases cause with
  | answered t' => exact congrArg Cause.answered (Option.some.inj h)
  | failed call => cases h
  | unsolicited => cases h

theorem tells_failed {m : Told} {call : Call} (hm : e.Tells S m) (hcause : m.cause = .failed call) :
    Response.sendFailedResponse call.header.token (.ofRequest call.header.id) =
      some m.callback := by
  cases e with
  | request i call' fails alive =>
      cases hm.1.symm.trans hcause
      exact hm.2
  | complete t err response payloadAllocated allocated alive =>
      cases hm.1.symm.trans hcause
  | unsolicited socketId unsolResponse token data payloadAllocated allocated alive =>
      cases (show m.cause = .unsolicited from hm).symm.trans hcause
  | _ => exact absurd hm id

/-- Who is told an answer of the vendor. -/
theorem tells_answered {m : Told} {t : ℕ} (hw : S.Wired) (h : step decode S e = some S')
    (hm : e.Tells S m) (hcause : m.cause = .answered t) :
    ∃ (req : SapSocketRequest) (x : Request), S.tokens[t]? = some req ∧ req.slot = m.slot ∧
      (S.socket req.socketId).requests req.request = some { x with stage := .handed } ∧
      (S'.socket req.socketId).requests req.request = some { x with stage := .completed } ∧
      IsResponse x.call.header m.callback := by
  cases e with
  | request i call fails alive => cases hm.1.symm.trans hcause
  | complete t' err response payloadAllocated allocated alive =>
      obtain ⟨hcause', req, x, hreq, hslot, hx, hresponse⟩ := hm
      cases hcause'.symm.trans hcause
      obtain ⟨y, hy, hstage, hy'⟩ := complete_stage hw h hreq
      cases Option.some.inj (hx.symm.trans hy)
      refine ⟨req, x, hreq, hslot, ?_, hy', hresponse⟩
      rw [hx, ← hstage]
  | unsolicited socketId unsolResponse token data payloadAllocated allocated alive =>
      cases (show m.cause = .unsolicited from hm).symm.trans hcause
  | _ => exact absurd hm id

theorem routed_init : System.init.Routed where
  answered m hm := by cases hm
  once := List.nodup_nil
  failed m hm := by cases hm
  found := rfl
  ids := List.nodup_nil

theorem step_routed (hw : S.Wired) (hr : S.Routed) (h : step decode S e = some S') :
    S'.Routed := by
  have heffect := step_effect hw h
  have hold : ∀ m ∈ S.told, ∀ t, m.cause = .answered t →
      ∃ req x, S'.tokens[t]? = some req ∧ req.slot = m.slot ∧
        (S'.socket req.socketId).requests req.request = some x ∧ x.stage = .completed ∧
          IsResponse x.call.header m.callback := by
    intro m hm t ht
    obtain ⟨req, x, hreq, hslot, hx, hstage, hresponse⟩ := hr.answered m hm t ht
    obtain ⟨x', hx', hcall, hstage'⟩ := (step_sockets hw h req.socketId).2 req.request x hx
    exact ⟨req, x', tokens_stay hw h hreq, hslot, hx', hstage' hstage, hcall ▸ hresponse⟩
  have hw' := step_wired hw h
  have hids : (S'.head.map (·.id)).Nodup := by
    have hids := hw'.ids
    unfold namesOf at hids
    rwa [List.map_map] at hids
  obtain htold | ⟨m, hm, htold⟩ := heffect.told
  · exact ⟨htold ▸ hold, htold ▸ hr.once, htold ▸ hr.failed, hw'.lost, hids⟩
  · refine ⟨?_, ?_, ?_, hw'.lost, hids⟩
    · intro m' hm' t ht
      rw [htold] at hm'
      obtain hm' | hm' := List.mem_append.1 hm'
      · exact hold m' hm' t ht
      · obtain rfl := List.mem_singleton.1 hm'
        obtain ⟨req, x, hreq, hslot, hx, hx', hresponse⟩ := tells_answered hw h hm ht
        exact ⟨req, _, tokens_stay hw h hreq, hslot, hx', rfl, hresponse⟩
    · rw [htold, List.filterMap_append, List.nodup_append]
      refine ⟨hr.once, ?_, ?_⟩
      · cases hcause : m.cause.token <;> simp [hcause]
      · rintro t hmem t' ht' rfl
        obtain ⟨m', hm', hcause'⟩ := List.mem_filterMap.1 hmem
        have hcause : m.cause.token = some t := by simpa using ht'
        obtain ⟨req, x, hreq, -, hx, -⟩ := tells_answered hw h hm (token_eq_some hcause)
        obtain ⟨req', x', hreq', -, hx', hstage', -⟩ :=
          hr.answered m' hm' t (token_eq_some hcause')
        cases Option.some.inj (hreq.symm.trans hreq')
        rw [hx'] at hx
        cases Option.some.inj hx
        cases hstage'
    · intro m' hm' call hcause
      rw [htold] at hm'
      obtain hm' | hm' := List.mem_append.1 hm'
      · exact hr.failed m' hm' call hcause
      · obtain rfl := List.mem_singleton.1 hm'
        exact tells_failed hm hcause

end Invariant

/-! ## Crashes -/

section Crash

variable {decode : Decoder} {S S' : System} {e : Event}

/-- A message that is there can be read. -/
theorem callback_some (token : ℤ) {id : Response.MsgId} {type : Response.MsgType}
    (message : Response.Message id type) :
    ∃ callback, Response.callback token id type (some message) = .ok callback := by
  cases id with
  | disconnect => cases type <;> exact ⟨_, rfl⟩
  | _ => exact ⟨_, rfl⟩

theorem callback_ok_iff (token : ℤ) {id : Response.MsgId} {type : Response.MsgType}
    (p : Option (Response.Message id type)) :
    (∃ callback, Response.callback token id type p = .ok callback) ↔
      (Response.readsFields id type = true → p.isSome) := by
  cases p with
  | some message => exact iff_of_true (callback_some token message) fun _ => rfl
  | none =>
      by_cases hreads : Response.readsFields id type = true
      · rw [Response.callback_none token hreads]
        constructor
        · rintro ⟨callback, ⟨⟩⟩
        · intro h
          cases h hreads
      · obtain ⟨callback, hcallback, -⟩ := Response.callback_contained token hreads none
        exact iff_of_true ⟨callback, hcallback⟩ fun h => absurd h hreads

theorem tell_crashed (hS : S.crashed = false) (impl : SapImpl) (cause : Cause)
    (callback : Callback) (alive : Bool) :
    (S.tell impl cause callback alive).crashed = false ↔ impl.sapCallback ≠ none := by
  unfold System.tell
  split
  · rename_i hnone
    exact iff_of_false (by simp) fun h => h hnone
  · rename_i client hclient
    exact iff_of_true hS (by simp [hclient])

/-- Nothing is read through a null pointer if there is no client or the message is readable. -/
theorem processResponse_ok_iff (token : ℤ) (msgId : Response.MsgId) (type : Response.MsgType)
    (data : List UInt8) (allocated connected : Bool) :
    (∃ told, Response.processResponse decode allocated connected token msgId type
        (⟨UInt16.ofNat data.length, data⟩ : BytesArray).content = .ok told) ↔
      (connected = true → Readable decode allocated msgId type data) := by
  unfold Response.processResponse
  cases connected with
  | false => exact iff_of_true ⟨none, rfl⟩ fun h => by cases h
  | true => exact (callback_ok_iff token _).trans ⟨fun h _ => h, fun h => h rfl⟩

theorem processResponse_crashed (hS : S.crashed = false) (id : RilSocketId) (cause : Cause)
    (token : ℤ) (msgId : Response.MsgId) (type : Response.MsgType) (data : List UInt8)
    (allocated alive : Bool) :
    (S.processResponse decode id cause token msgId type data allocated alive).crashed = false ↔
      ∃ impl, S.getSapImpl id = some impl ∧
        (impl.sapCallback ≠ none → Readable decode allocated msgId type data) := by
  unfold System.processResponse
  cases S.getSapImpl id with
  | none =>
      constructor
      · rintro ⟨⟩
      · rintro ⟨impl, ⟨⟩, -⟩
  | some impl =>
      have hok := @processResponse_ok_iff decode token msgId type data allocated
        impl.sapCallback.isSome
      have hsame : (∃ impl', some impl = some impl' ∧ (impl'.sapCallback ≠ none →
          Readable decode allocated msgId type data)) ↔
          (impl.sapCallback.isSome = true → Readable decode allocated msgId type data) := by
        rw [Option.isSome_iff_ne_none]
        constructor
        · rintro ⟨impl', heq, h⟩
          cases heq
          exact h
        · exact fun h => ⟨impl, rfl, h⟩
      rw [hsame, ← hok]
      cases hresult : Response.processResponse decode allocated impl.sapCallback.isSome token msgId
        type (⟨UInt16.ofNat data.length, data⟩ : BytesArray).content with
      | error fault =>
          dsimp only
          rw [hresult]
          constructor
          · rintro ⟨⟩
          · rintro ⟨told, ⟨⟩⟩
      | ok told =>
          refine iff_of_true ?_ ⟨told, rfl⟩
          dsimp only
          rw [hresult]
          cases told with
          | none => exact hS
          | some callback =>
              refine (tell_crashed hS impl cause callback alive).2 fun hnone => ?_
              rw [hnone] at hresult
              cases hresult

/-- A request can always be refused with a callback. -/
theorem sendFailedResponse_isSome (call : Call) :
    (Response.sendFailedResponse call.header.token (.ofRequest call.header.id)).isSome := by
  cases call <;> rfl

theorem answerFailure_crashed (hS : S.crashed = false) (impl : SapImpl) (call : Call)
    (out : Outcome) (alive : Bool) :
    (answerFailure S impl call out alive).crashed = false ↔
      (out = .failed → impl.sapCallback ≠ none) := by
  unfold answerFailure
  by_cases hout : out = .failed
  · obtain ⟨callback, hcallback⟩ := Option.isSome_iff_exists.1 (sendFailedResponse_isSome call)
    rw [if_pos hout, hcallback]
    exact (tell_crashed hS ..).trans ⟨fun h _ => h, fun h => h hout⟩
  · rw [if_neg hout]
    exact iff_of_true hS fun h => absurd h hout

/-- The service that an answer goes to is that of the request's slot. -/
theorem getSapImpl_request {req : SapSocketRequest} (hw : S.Wired) (hreq : req ∈ S.tokens) :
    S.getSapImpl req.socketId = S.sapService req.slot ∧ (S.sapService req.slot).isSome := by
  obtain ⟨hslot, hservice, -⟩ := hw.tokens req hreq
  refine ⟨?_, hservice⟩
  cases hid : req.socketId with
  | socket1 =>
      rw [hid] at hslot
      rw [socketIds_injective hslot (show socketIds[0]? = some .socket1 from rfl)]
      rfl
  | socket2 =>
      rw [hid] at hslot
      rw [socketIds_injective hslot (show socketIds[1]? = some .socket2 from rfl)]
      rfl

/-- A step crashes exactly when its event is not safe. -/
theorem step_crashed (hw : S.Wired) (h : step decode S e = some S') :
    S'.crashed = false ↔ e.Safe decode S := by
  obtain ⟨hS, h⟩ := act_of_step h
  cases e with
  | initSapSocket socketName uimFuncs oom =>
      cases Option.some.inj h
      exact iff_of_true hS trivial
  | registerService i =>
      obtain ⟨socketId, hsocketId, rfl⟩ := Option.map_eq_some_iff.1 h
      exact iff_of_true hS trivial
  | setCallback i client =>
      obtain ⟨impl, himpl, rfl⟩ := Option.map_eq_some_iff.1 h
      exact iff_of_true hS trivial
  | request i call fails alive =>
      obtain ⟨impl, himpl, h⟩ := Option.bind_eq_some_iff.1 h
      obtain ⟨T, hT, rfl⟩ := Option.map_eq_some_iff.1 h
      have hTcrashed : T.crashed = false := by
        obtain ⟨-, rfl⟩ | ⟨sock, s, -, -, rfl⟩ := dispatch_cases hT
        · exact hS
        · exact hS
      rw [answerFailure_crashed hTcrashed, Event.Safe, himpl]
      simp
  | freePayload socketId r =>
      obtain ⟨sock, s, hsock, hs, rfl⟩ := socketStep_eq_some h
      exact iff_of_true hS trivial
  | freeBuffer socketId r =>
      obtain ⟨sock, s, hsock, hs, rfl⟩ := socketStep_eq_some h
      exact iff_of_true hS trivial
  | complete t err response payloadAllocated allocated alive =>
      obtain ⟨req, hreq, hcases⟩ := sOnRequestComplete_cases h
      obtain ⟨hservice, hregistered⟩ := getSapImpl_request hw (List.mem_of_getElem? hreq)
      obtain ⟨impl, himpl⟩ := Option.isSome_iff_exists.1 hregistered
      obtain ⟨hnone, -⟩ | ⟨sock, x, s, hsock, hx, hs, rfl⟩ := hcases
      · obtain ⟨-, -, hrequest⟩ := hw.tokens req (List.mem_of_getElem? hreq)
        rw [socket_none hnone] at hrequest
        cases hrequest
      · rw [Event.Safe, hreq]
        cases payloadAllocated with
        | false => exact iff_of_true hS fun h => by cases h
        | true =>
            rw [if_pos rfl, processResponse_crashed (by exact hS)]
            rw [show System.getSapImpl _ req.socketId = S.getSapImpl req.socketId from by
              cases req.socketId <;> rfl, hservice, himpl]
            simp [himpl, hx]
  | unsolicited socketId unsolResponse token data payloadAllocated allocated alive =>
      cases Option.some.inj h
      unfold sOnUnsolicitedResponse
      cases hsock : getSocketById S.head socketId with
      | none => exact iff_of_true hS fun h => by simp [hsock] at h
      | some sock =>
          rw [Event.Safe, hsock]
          by_cases hdata : data ≠ [] ∧ payloadAllocated = true
          · dsimp only
            rw [if_pos hdata, processResponse_crashed hS, getSocketById_id hsock]
            exact ⟨fun h _ _ _ => h, fun h => h rfl hdata.1 hdata.2⟩
          · dsimp only
            rw [if_neg hdata]
            exact iff_of_true hS fun _ hne hallocated => absurd ⟨hne, hallocated⟩ hdata

end Crash

/-! ## Main result -/

end Sap.Sockets
