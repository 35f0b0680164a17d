/-
# SAP responses (`sap_service.cpp`, `RilSapSocket.cpp`)

What the client is told of an answer of the vendor.  `sapDecodeMessage` returns null for a payload
that it cannot decode, and `processResponse` casts what it is given to the message of the id.

* `processResponse` : the callback, or the read through a null pointer;
* `Contained` : the client receives a failure with its token or nothing;
* `contained_iff` : which messages contain a payload that is refused.

The enumerations of the protocol have the members that the code names; the decoder of the fields
is a parameter.
-/
import Ct07.Lib.CheckedMemory
import Ct07.Sap.Completeness

open CheckedMemory
open Sap.Completeness (BytesArray)

namespace Sap.Response

/-! ## Messages -/

/-- `MsgId`; the code has a `default` case. -/
inductive MsgId where
  | connect
  | disconnect
  | apdu
  | transferAtr
  | power
  | resetSim
  | status
  | transferCardReaderStatus
  | errorResp
  | setTransferProtocol
  | other (n : ℤ)
  deriving DecidableEq

/-- The id of the response to a request. -/
def MsgId.ofRequest : Sap.MsgId → MsgId
  | .connect => connect
  | .disconnect => disconnect
  | .apdu => apdu
  | .transferAtr => transferAtr
  | .power => power
  | .resetSim => resetSim
  | .transferCardReaderStatus => transferCardReaderStatus
  | .setTransferProtocol => setTransferProtocol

inductive MsgType where
  | unknown
  | request
  | response
  | unsolResponse
  deriving DecidableEq

/-- The members of the enumerations of the responses. -/
inductive RilE where
  | success
  | genericFailure
  | simNotReady
  | simAlreadyPoweredOff
  | simAlreadyPoweredOn
  | simAbsent
  | simDataNotAvailable
  | other (n : ℤ)
  deriving DecidableEq

/-- `SapConnectRsp`; the code names one member, and casts the response to it. -/
inductive SapConnectRsp where
  | connectFailure
  | other (n : ℤ)
  deriving DecidableEq

structure ConnectRsp where
  response : SapConnectRsp
  maxMessageSize : ℤ

structure DisconnectInd where
  disconnectType : ℤ

structure ApduRsp where
  response : RilE
  apduResponse : Option BytesArray

structure TransferAtrRsp where
  response : RilE
  atr : Option BytesArray

structure PowerRsp where
  response : RilE

structure ResetSimRsp where
  response : RilE

structure StatusInd where
  statusChange : ℤ

structure TransferCardReaderStatusRsp where
  response : RilE
  cardReaderStatus : ℤ

structure SetTransferProtocolRsp where
  response : RilE

/-- The message that an id and a type stand for. -/
def Message : MsgId → MsgType → Type
  | .connect, _ => ConnectRsp
  | .disconnect, .response => Unit
  | .disconnect, _ => DisconnectInd
  | .apdu, _ => ApduRsp
  | .transferAtr, _ => TransferAtrRsp
  | .power, _ => PowerRsp
  | .resetSim, _ => ResetSimRsp
  | .status, _ => StatusInd
  | .transferCardReaderStatus, _ => TransferCardReaderStatusRsp
  | .errorResp, _ => Unit
  | .setTransferProtocol, _ => SetTransferProtocolRsp
  | .other _, _ => Empty

/-- `pb_decode` with the fields of the message: nothing when it refuses the payload. -/
abbrev Decoder := (id : MsgId) → (type : MsgType) → List UInt8 → Option (Message id type)

/-- `sapDecodeMessage`; `allocated` says whether there is memory for the message. -/
def sapDecodeMessage (decode : Decoder) (allocated : Bool) (id : MsgId) (type : MsgType)
    (payload : List UInt8) : Option (Message id type) :=
  if allocated then decode id type payload else none

/-! ## The client -/

inductive SapResultCode where
  | success
  | genericFailure
  | cardNotAccesssible
  | cardAlreadyPoweredOff
  | cardRemoved
  | cardAlreadyPoweredOn
  | dataNotAvailable
  | notSupported
  deriving DecidableEq

/-- The methods of `ISapCallback`. -/
inductive Callback where
  | connectResponse (token : ℤ) (sapConnectRsp : SapConnectRsp) (maxMsgSize : ℤ)
  | disconnectResponse (token : ℤ)
  | disconnectIndication (token : ℤ) (disconnectType : ℤ)
  | apduResponse (token : ℤ) (resultCode : SapResultCode) (apduRsp : List UInt8)
  | transferAtrResponse (token : ℤ) (resultCode : SapResultCode) (atr : List UInt8)
  | powerResponse (token : ℤ) (resultCode : SapResultCode)
  | resetSimResponse (token : ℤ) (resultCode : SapResultCode)
  | statusIndication (token : ℤ) (status : ℤ)
  | transferCardReaderStatusResponse (token : ℤ) (resultCode : SapResultCode)
      (cardReaderStatus : ℤ)
  | errorResponse (token : ℤ)
  | transferProtocolResponse (token : ℤ) (resultCode : SapResultCode)
  deriving DecidableEq

def convertApduResponseProtoToHal : RilE → SapResultCode
  | .success => .success
  | .genericFailure => .genericFailure
  | .simNotReady => .cardNotAccesssible
  | .simAlreadyPoweredOff => .cardAlreadyPoweredOff
  | .simAbsent => .cardRemoved
  | _ => .genericFailure

def convertTransferAtrResponseProtoToHal : RilE → SapResultCode
  | .success => .success
  | .genericFailure => .genericFailure
  | .simAlreadyPoweredOff => .cardAlreadyPoweredOff
  | .simAbsent => .cardRemoved
  | .simDataNotAvailable => .dataNotAvailable
  | _ => .genericFailure

def convertPowerResponseProtoToHal : RilE → SapResultCode
  | .success => .success
  | .genericFailure => .genericFailure
  | .simAbsent => .cardRemoved
  | .simAlreadyPoweredOff => .cardAlreadyPoweredOff
  | .simAlreadyPoweredOn => .cardAlreadyPoweredOn
  | _ => .genericFailure

def convertResetSimResponseProtoToHal : RilE → SapResultCode
  | .success => .success
  | .genericFailure => .genericFailure
  | .simAbsent => .cardRemoved
  | .simNotReady => .cardNotAccesssible
  | .simAlreadyPoweredOff => .cardAlreadyPoweredOff
  | _ => .genericFailure

def convertTransferCardReaderStatusResponseProtoToHal : RilE → SapResultCode
  | .success => .success
  | .genericFailure => .genericFailure
  | .simDataNotAvailable => .dataNotAvailable
  | _ => .genericFailure

/-- The callback of `SapImpl::sendFailedResponse`. -/
def sendFailedResponse (token : ℤ) : MsgId → Option Callback
  | .connect => some (.connectResponse token .connectFailure 0)
  | .disconnect => some (.disconnectResponse token)
  | .apdu => some (.apduResponse token .genericFailure [])
  | .transferAtr => some (.transferAtrResponse token .genericFailure [])
  | .power => some (.powerResponse token .genericFailure)
  | .resetSim => some (.resetSimResponse token .genericFailure)
  | .transferCardReaderStatus => some (.transferCardReaderStatusResponse token .genericFailure 0)
  | .setTransferProtocol => some (.transferProtocolResponse token .notSupported)
  | _ => none

/-! ## From a payload to a callback -/

/-- A read through a pointer. -/
def deref {α : Type} : Option α → Except Fault α
  | none => .error .read
  | some a => .ok a

/-- The bytes of an array, none if its pointer is null. -/
def bytesOf (a : Option BytesArray) : List UInt8 := (a.map BytesArray.content).getD []

/-- The callback for a message.  A disconnect response and an error response have no fields. -/
def callback (token : ℤ) :
    (id : MsgId) → (type : MsgType) → Option (Message id type) → Except Fault (Option Callback)
  | .connect, _, p => do
      let rsp ← deref p
      return some (.connectResponse token rsp.response rsp.maxMessageSize)
  | .disconnect, .response, _ => .ok (some (.disconnectResponse token))
  | .disconnect, .unknown, p | .disconnect, .request, p | .disconnect, .unsolResponse, p => do
      let ind ← deref p
      return some (.disconnectIndication token ind.disconnectType)
  | .apdu, _, p => do
      let rsp ← deref p
      return some (.apduResponse token (convertApduResponseProtoToHal rsp.response)
        (bytesOf rsp.apduResponse))
  | .transferAtr, _, p => do
      let rsp ← deref p
      return some (.transferAtrResponse token (convertTransferAtrResponseProtoToHal rsp.response)
        (bytesOf rsp.atr))
  | .power, _, p => do
      let rsp ← deref p
      return some (.powerResponse token (convertPowerResponseProtoToHal rsp.response))
  | .resetSim, _, p => do
      let rsp ← deref p
      return some (.resetSimResponse token (convertResetSimResponseProtoToHal rsp.response))
  | .status, _, p => do
      let ind ← deref p
      return some (.statusIndication token ind.statusChange)
  | .transferCardReaderStatus, _, p => do
      let rsp ← deref p
      return some (.transferCardReaderStatusResponse token
        (convertTransferCardReaderStatusResponseProtoToHal rsp.response) rsp.cardReaderStatus)
  | .errorResp, _, _ => .ok (some (.errorResponse token))
  | .setTransferProtocol, _, p => do
      let rsp ← deref p
      return some (.transferProtocolResponse token
        (if rsp.response = .success then .success else .notSupported))
  | .other _, _, _ => .ok none

/-- `processResponse`; `connected` says whether `sapCallback` is set. -/
def processResponse (decode : Decoder) (allocated connected : Bool) (token : ℤ) (id : MsgId)
    (type : MsgType) (payload : List UInt8) : Except Fault (Option Callback) :=
  let messagePtr := sapDecodeMessage decode allocated id type payload
  if connected then callback token id type messagePtr else .ok none

/-- `RilSapSocket::onRequestComplete`, up to `processResponse`: the payload has the token and the
id of the request, and `rsp.payload` may be null. -/
def onRequestComplete (decode : Decoder) (payloadAllocated allocated connected : Bool)
    (hdr : Sap.MsgHeader) (response : List UInt8) : Except Fault (Option Callback) :=
  if payloadAllocated then
    let payload : BytesArray := ⟨UInt16.ofNat response.length, response⟩
    processResponse decode allocated connected hdr.token (.ofRequest hdr.id) .response
      payload.content
  else .ok none

/-! ## Containing a refused payload -/

/-- A failure with the token: the one that a request of the id is answered with when it cannot be
sent, or an error response. -/
def IsFailure (token : ℤ) (id : MsgId) (c : Callback) : Prop :=
  c = .errorResponse token ∨ sendFailedResponse token id = some c

/-- No message that is null is read, and the client receives a failure or nothing. -/
def Contained (token : ℤ) (id : MsgId) (result : Except Fault (Option Callback)) : Prop :=
  ∃ answer, result = .ok answer ∧ ∀ c ∈ answer, IsFailure token id c

/-- The code reads fields of the message. -/
def readsFields : MsgId → MsgType → Bool
  | .disconnect, type => type ≠ .response
  | .errorResp, _ => false
  | .other _, _ => false
  | _, _ => true

theorem readsFields_eq_false_iff (id : MsgId) (type : MsgType) :
    readsFields id type = false ↔
      (id = .disconnect ∧ type = .response) ∨ id = .errorResp ∨ ∃ n, id = .other n := by
  cases id with
  | disconnect => cases type <;> simp [readsFields]
  | _ => simp [readsFields]

theorem not_contained_fault {token : ℤ} {id : MsgId} {e : Fault} :
    ¬ Contained token id (.error e) := by
  rintro ⟨answer, h, -⟩
  exact nomatch h

/-- A null pointer is read, when the code reads fields. -/
theorem callback_none (token : ℤ) {id : MsgId} {type : MsgType} (h : readsFields id type) :
    callback token id type none = .error .read := by
  cases id with
  | disconnect => cases type <;> first | rfl | exact absurd h (by decide)
  | errorResp => exact absurd h Bool.false_ne_true
  | other n => exact absurd h (by simp [readsFields])
  | _ => rfl

theorem callback_contained (token : ℤ) {id : MsgId} {type : MsgType}
    (h : ¬ readsFields id type) (p : Option (Message id type)) :
    Contained token id (callback token id type p) := by
  cases id with
  | disconnect =>
      cases type with
      | response =>
          refine ⟨_, rfl, fun c hc => .inr ?_⟩
          rw [← Option.mem_some.1 hc]
          rfl
      | unknown => exact absurd rfl h
      | request => exact absurd rfl h
      | unsolResponse => exact absurd rfl h
  | errorResp =>
      refine ⟨_, rfl, fun c hc => .inl ?_⟩
      rw [← Option.mem_some.1 hc]
  | other n => exact ⟨none, rfl, fun c hc => nomatch hc⟩
  | _ => exact absurd rfl h

theorem callback_none_contained_iff (token : ℤ) (id : MsgId) (type : MsgType) :
    Contained token id (callback token id type none) ↔ readsFields id type = false := by
  cases hreads : readsFields id type with
  | false => exact iff_of_true (callback_contained token (by simp [hreads]) none) rfl
  | true =>
      rw [callback_none token hreads]
      exact iff_of_false not_contained_fault (by decide)

/-- A payload that is refused comes to the client as a null message. -/
theorem processResponse_refused {decode : Decoder} {id : MsgId} {type : MsgType}
    {payload : List UInt8} (h : decode id type payload = none) (allocated connected : Bool)
    (token : ℤ) : processResponse decode allocated connected token id type payload =
      if connected then callback token id type none else .ok none := by
  rw [processResponse, sapDecodeMessage, h, ite_self]

theorem contained_nothing (token : ℤ) (id : MsgId) : Contained token id (.ok none) :=
  ⟨none, rfl, fun _ hc => nomatch hc⟩

/-! ## Main result -/

/-- **A payload that is refused is contained, exactly when there is no client or the message has no
fields that are read.** -/
theorem contained_iff (decode : Decoder) (allocated connected : Bool) (token : ℤ) (id : MsgId)
    (type : MsgType) (payload : List UInt8) (hrefused : decode id type payload = none) :
    Contained token id (processResponse decode allocated connected token id type payload) ↔
      connected = false ∨ (id = .disconnect ∧ type = .response) ∨ id = .errorResp ∨
        ∃ n, id = .other n := by
  rw [processResponse_refused hrefused, ← readsFields_eq_false_iff]
  cases connected with
  | false => exact iff_of_true (contained_nothing token id) (.inl rfl)
  | true =>
      rw [if_pos rfl, callback_none_contained_iff, or_iff_right (by decide)]

/-- An answer without a payload to a disconnect request. -/
theorem contained_iff_disconnect :
    Contained 7 .disconnect
        (processResponse (fun _ _ _ => none) true true 7 .disconnect .response []) ↔
      true = false ∨ (MsgId.disconnect = .disconnect ∧ MsgType.response = .response) ∨
        MsgId.disconnect = .errorResp ∨ ∃ n, MsgId.disconnect = .other n :=
  contained_iff (fun _ _ _ => none) true true 7 .disconnect .response [] rfl

/-- The completion of a request with a payload that is refused. -/
theorem onRequestComplete_contained_iff (decode : Decoder)
    (payloadAllocated allocated connected : Bool) (hdr : Sap.MsgHeader) (response : List UInt8)
    (hrefused : ∀ payload : BytesArray, payload = ⟨UInt16.ofNat response.length, response⟩ →
      decode (.ofRequest hdr.id) .response payload.content = none) :
    Contained hdr.token (.ofRequest hdr.id)
        (onRequestComplete decode payloadAllocated allocated connected hdr response) ↔
      payloadAllocated = false ∨ connected = false ∨ hdr.id = .disconnect := by
  have hreads : readsFields (.ofRequest hdr.id) .response = false ↔ hdr.id = .disconnect := by
    cases hdr.id <;> decide
  cases payloadAllocated with
  | false => exact iff_of_true (contained_nothing _ _) (.inl rfl)
  | true =>
      rw [onRequestComplete, if_pos rfl, processResponse_refused (hrefused _ rfl)]
      cases connected with
      | false => exact iff_of_true (contained_nothing _ _) (.inr (.inl rfl))
      | true =>
          rw [if_pos rfl, callback_none_contained_iff, hreads]
          simp

/-- An answer without a payload to an APDU request. -/
theorem emptyApdu_not_contained :
    ¬ ∀ (decode : Decoder) (allocated connected : Bool) (token : ℤ) (id : MsgId) (type : MsgType)
        (payload : List UInt8), decode id type payload = none →
      Contained token id (processResponse decode allocated connected token id type payload) := by
  intro hall
  have hrun : processResponse (fun _ _ _ => none) true true 7 .apdu .response [] = .error .read :=
    rfl
  have h := hall (fun _ _ _ => none) true true 7 .apdu .response [] rfl
  rw [hrun] at h
  exact not_contained_fault h

end Sap.Response
