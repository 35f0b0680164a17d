/-
# Answers that are lists (`ril_service.cpp`)

Many answers of the vendor are arrays: of records, of pointers to records, of strings or of
numbers, whose length is announced in bytes or in a field.  The handlers check the bytes, resize a
vector to the number and fill it in a loop.

* `RilCardStatus`, `RilCallForwardInfo`, `RilCellInfo`, ... : the records of the vendor, beside
  those of the client;
* `getIccCardStatusResponse`, `getCallForwardStatusResponse`, ... : the handlers;
* `Answer.meaning` : what an answer says, and when it can be read;
* `answers_exact` : the client is told what the answer says, and nothing outside of it is read.

Every access to an array is checked.  The limits of the vendor's arrays are parameters.
-/
import Ct07.Lib.CountedCopy
import Ct07.Radio.Reply

open CheckedMemory CountedCopy

namespace Radio.ListAnswers

/-- The characters that `convertCharPtrToHidlString` refers to. -/
def textOf (ptr : Option Text) : Text := ptr.getD []

/-- `sizeof(int)` -/
def sizeofInt : ℕ := 4

/-- The skeleton of a handler.  `payload` is what it does with an answer that passes its check,
`none` if it does not pass. -/
def respond {β : Type} (connected : Bool) (responseType serial e : ℤ) (empty : β)
    (payload : Option (RadioResponseInfo → Except Fault (RadioResponseInfo × β))) :
    Except Fault (Option (RadioResponseInfo × β)) :=
  if connected then
    let info := populateResponseInfo serial responseType e
    match payload with
    | none => return some (info.invalidResponse e, empty)
    | some convert => do
        let told ← convert info
        return some told
  else return none

/-- The handlers that fill a vector from an array, with elements of `size` bytes. -/
def respondArray {α β : Type} (connected : Bool) (responseType serial e : ℤ) (size : ℕ) (zero : β)
    (convert : α → Except Fault β) (response : Option (List α)) (responseLen : ℕ) :
    Except Fault (Option (RadioResponseInfo × List β)) :=
  respond connected responseType serial e [] (response.bind fun xs =>
    if responseLen % size ≠ 0 then none
    else some fun info => do
      let out ← copyArray zero convert xs (responseLen / size)
      return (info, out))

/-! ## The state of the card -/

/-- `RIL_AppStatus` -/
structure RilAppStatus where
  appType : ℤ
  appState : ℤ
  persoSubstate : ℤ
  aidPtr : Option Text
  appLabelPtr : Option Text
  pin1Replaced : ℤ
  pin1 : ℤ
  pin2 : ℤ

/-- `RIL_CardStatus_v6`; `maxApps` is `RIL_CARD_MAX_APPS`. -/
structure RilCardStatus (maxApps : ℕ) where
  cardState : ℤ
  universalPinState : ℤ
  gsmUmtsSubscriptionAppIndex : ℤ
  cdmaSubscriptionAppIndex : ℤ
  imsSubscriptionAppIndex : ℤ
  numApplications : ℤ
  applications : List RilAppStatus
  size : applications.length = maxApps

/-- Six words, and eight for each application. -/
def sizeofCardStatus (maxApps : ℕ) : ℕ := 24 + 32 * maxApps

structure AppStatus where
  appType : ℤ
  appState : ℤ
  persoSubstate : ℤ
  aidPtr : Text
  appLabelPtr : Text
  pin1Replaced : ℤ
  pin1 : ℤ
  pin2 : ℤ

def AppStatus.zero : AppStatus := ⟨0, 0, 0, [], [], 0, 0, 0⟩

structure CardStatus where
  cardState : ℤ
  universalPinState : ℤ
  gsmUmtsSubscriptionAppIndex : ℤ
  cdmaSubscriptionAppIndex : ℤ
  imsSubscriptionAppIndex : ℤ
  applications : List AppStatus

def CardStatus.zero : CardStatus := ⟨0, 0, 0, 0, 0, []⟩

/-- `appStatus[i]` for `rilAppStatus[i]` -/
def convertAppStatus (r : RilAppStatus) : AppStatus :=
  ⟨r.appType, r.appState, r.persoSubstate, textOf r.aidPtr, textOf r.appLabelPtr, r.pin1Replaced,
    r.pin1, r.pin2⟩

/-- The record with its applications. -/
def RilCardStatus.convert {maxApps : ℕ} (r : RilCardStatus maxApps) (applications : List AppStatus) :
    CardStatus :=
  ⟨r.cardState, r.universalPinState, r.gsmUmtsSubscriptionAppIndex, r.cdmaSubscriptionAppIndex,
    r.imsSubscriptionAppIndex, applications⟩

/-- `radio::getIccCardStatusResponse` -/
def getIccCardStatusResponse {maxApps : ℕ} (connected : Bool) (responseType serial e : ℤ)
    (response : Option (RilCardStatus maxApps)) (responseLen : ℕ) :
    Except Fault (Option (RadioResponseInfo × CardStatus)) :=
  respond connected responseType serial e CardStatus.zero (response.bind fun cur =>
    if responseLen ≠ sizeofCardStatus maxApps then none
    else some fun info => do
      let applications ← resize AppStatus.zero cur.numApplications
      let applications ← copyLoop
        (fun i => readAt cur.applications i >>= fun r => .ok (convertAppStatus r))
        0 cur.numApplications.toNat applications
      return (info, cur.convert applications))

/-! ## Pointers to records -/

/-- `RIL_CallForwardInfo` -/
structure RilCallForwardInfo where
  status : ℤ
  reason : ℤ
  serviceClass : ℤ
  toa : ℤ
  number : Option Text
  timeSeconds : ℤ

structure CallForwardInfo where
  status : ℤ
  reason : ℤ
  serviceClass : ℤ
  toa : ℤ
  number : Text
  timeSeconds : ℤ

def CallForwardInfo.zero : CallForwardInfo := ⟨0, 0, 0, 0, [], 0⟩

def convertCallForwardInfo (r : RilCallForwardInfo) : CallForwardInfo :=
  ⟨r.status, r.reason, r.serviceClass, r.toa, textOf r.number, r.timeSeconds⟩

/-- `radio::getCallForwardStatusResponse` -/
def getCallForwardStatusResponse (connected : Bool) (responseType serial e : ℤ)
    (response : Option (List (Option RilCallForwardInfo))) (responseLen : ℕ) :
    Except Fault (Option (RadioResponseInfo × List CallForwardInfo)) :=
  respondArray connected responseType serial e sizeofPointer CallForwardInfo.zero
    (fun ptr => deref ptr >>= fun resp => .ok (convertCallForwardInfo resp)) response responseLen

/-- `RIL_NeighboringCell` -/
structure RilNeighboringCell where
  cid : Option Text
  rssi : ℤ

structure NeighboringCell where
  cid : Text
  rssi : ℤ

def convertNeighboringCell (r : RilNeighboringCell) : NeighboringCell := ⟨textOf r.cid, r.rssi⟩

/-- `radio::getNeighboringCidsResponse` -/
def getNeighboringCidsResponse (connected : Bool) (responseType serial e : ℤ)
    (response : Option (List (Option RilNeighboringCell))) (responseLen : ℕ) :
    Except Fault (Option (RadioResponseInfo × List NeighboringCell)) :=
  respondArray connected responseType serial e sizeofPointer ⟨[], 0⟩
    (fun ptr => deref ptr >>= fun resp => .ok (convertNeighboringCell resp)) response responseLen

/-! ## Numbers and strings -/

/-- `radio::getAvailableBandModesResponse` -/
def getAvailableBandModesResponse (connected : Bool) (responseType serial e : ℤ)
    (response : Option (List ℤ)) (responseLen : ℕ) :
    Except Fault (Option (RadioResponseInfo × List ℤ)) :=
  respondArray connected responseType serial e sizeofInt 0 (fun mode => .ok mode) response
    responseLen

/-- `radio::sendRequestStringsResponse`; `connected` is about the client of `oemHookService`. -/
def sendRequestStringsResponse (connected : Bool) (responseType serial e : ℤ)
    (response : Option (List (Option Text))) (responseLen : ℕ) :
    Except Fault (Option (RadioResponseInfo × List Text)) :=
  respondArray connected responseType serial e sizeofPointer []
    (fun ptr => .ok (textOf ptr)) response responseLen

/-- A conversion to `int8_t`. -/
def toInt8 (x : ℤ) : ℤ := x.bmod 256

/-- `radio::iccOpenLogicalChannelResponse` -/
def iccOpenLogicalChannelResponse (connected : Bool) (responseType serial e : ℤ)
    (response : Option (List ℤ)) (responseLen : ℕ) :
    Except Fault (Option (RadioResponseInfo × ℤ × List ℤ)) :=
  respond connected responseType serial e (-1, []) (response.bind fun pInt =>
    if responseLen % sizeofInt ≠ 0 then none
    else some fun info => do
      let numInts := responseLen / sizeofInt
      let channelId ← readAt pInt 0
      let selectResponse ← resize 0 ((numInts : ℤ) - 1)
      let selectResponse ← copyLoop
        (fun i => readAt pInt (i + 1) >>= fun x => .ok (toInt8 x)) 0 (numInts - 1) selectResponse
      return (info, channelId, selectResponse))

/-! ## Networks -/

inductive OperatorStatus where
  | unknown
  | available
  | current
  | forbidden
  deriving DecidableEq

/-- `strncmp` with a length finds the strings equal. -/
def strncmp (s t : Text) (n : ℕ) : Bool := s.take n = t.take n

/-- `convertOperatorStatusToInt`, `none` for -1 -/
def convertOperatorStatusToInt (str : Text) : Option OperatorStatus :=
  if strncmp "unknown".toList str 9 then some .unknown
  else if strncmp "available".toList str 9 then some .available
  else if strncmp "current".toList str 9 then some .current
  else if strncmp "forbidden".toList str 9 then some .forbidden
  else none

/-- `OperatorInfo`; the status may not have been set. -/
structure OperatorInfo where
  alphaLong : Text
  alphaShort : Text
  operatorNumeric : Text
  status : Option OperatorStatus

def OperatorInfo.zero : OperatorInfo := ⟨[], [], [], none⟩

/-- `networks[j]` for the four strings from `resp[4 * j]` on -/
def convertNetwork (resp : List (Option Text)) (j : ℕ) : Except Fault OperatorInfo := do
  let alphaLong ← readAt resp (4 * j)
  let alphaShort ← readAt resp (4 * j + 1)
  let operatorNumeric ← readAt resp (4 * j + 2)
  let ptr ← readAt resp (4 * j + 3)
  let str ← deref ptr
  return ⟨textOf alphaLong, textOf alphaShort, textOf operatorNumeric,
    convertOperatorStatusToInt str⟩

/-- `radio::getAvailableNetworksResponse`.  The error, which the loop sets for a status that it
does not know, is not looked at before the end. -/
def getAvailableNetworksResponse (connected : Bool) (responseType serial e : ℤ)
    (response : Option (List (Option Text))) (responseLen : ℕ) :
    Except Fault (Option (RadioResponseInfo × List OperatorInfo)) :=
  respond connected responseType serial e [] (response.bind fun resp =>
    if responseLen % (4 * sizeofPointer) ≠ 0 then none
    else some fun info => do
      let numStrings := responseLen / sizeofPointer
      let networks ← copyLoop (convertNetwork resp) 0 (numStrings / 4)
        (List.replicate (numStrings / 4) OperatorInfo.zero)
      let info := if networks.any (·.status.isNone) then info.invalidResponse e else info
      return (info, networks))

/-! ## Cells -/

/-- The types of `RIL_CellInfoType`. -/
inductive CellInfoType where
  | gsm
  | cdma
  | lte
  | wcdma
  | tdScdma
  | other (n : ℤ)
  deriving DecidableEq

/-- The cell of a GSM network, for the vendor with numbers as codes and for the client with
texts. -/
structure Gsm (σ : Type) where
  mcc : σ
  mnc : σ
  lac : ℤ
  cid : ℤ
  signalStrength : ℤ
  bitErrorRate : ℤ

structure Wcdma (σ : Type) where
  mcc : σ
  mnc : σ
  lac : ℤ
  cid : ℤ
  psc : ℤ
  signalStrength : ℤ
  bitErrorRate : ℤ

structure Cdma where
  networkId : ℤ
  systemId : ℤ
  baseStationId : ℤ
  longitude : ℤ
  latitude : ℤ
  cdmaDbm : ℤ
  cdmaEcio : ℤ
  evdoDbm : ℤ
  evdoEcio : ℤ
  signalNoiseRatio : ℤ

structure Lte (σ : Type) where
  mcc : σ
  mnc : σ
  ci : ℤ
  pci : ℤ
  tac : ℤ
  signalStrength : ℤ
  rsrp : ℤ
  rsrq : ℤ
  rssnr : ℤ
  cqi : ℤ

structure Tdscdma (σ : Type) where
  mcc : σ
  mnc : σ
  lac : ℤ
  cid : ℤ
  cpid : ℤ
  rscp : ℤ

/-- `RIL_CellInfo_v12`.  The last five fields are a union: what its bytes say for each type. -/
structure RilCellInfo where
  cellInfoType : CellInfoType
  registered : ℤ
  timeStampType : ℤ
  timeStamp : ℕ
  gsm : Gsm ℤ
  wcdma : Wcdma ℤ
  cdma : Cdma
  lte : Lte ℤ
  tdscdma : Tdscdma ℤ

/-- `sizeof(RIL_CellInfo_v12)` on the 32-bit target -/
def sizeofCellInfo : ℕ := 72

/-- `CellInfo` -/
structure CellInfo where
  cellInfoType : CellInfoType
  registered : Bool
  timeStampType : ℤ
  timeStamp : ℕ
  gsm : List (Gsm Text)
  wcdma : List (Wcdma Text)
  cdma : List Cdma
  lte : List (Lte Text)
  tdscdma : List (Tdscdma Text)

/-- How many cells a record describes. -/
def CellInfo.cells (c : CellInfo) : ℕ :=
  c.gsm.length + c.wcdma.length + c.cdma.length + c.lte.length + c.tdscdma.length

def CellInfo.zero : CellInfo := ⟨.other 0, false, 0, 0, [], [], [], [], []⟩

/-- `std::to_string` -/
def toText (n : ℤ) : Text := (toString n).toList

/-- The loop body of `convertRilCellInfoListToHal`, in the build for MediaTek hardware. -/
def convertCellInfo (r : RilCellInfo) : CellInfo :=
  let record : CellInfo :=
    ⟨r.cellInfoType, r.registered ≠ 0, r.timeStampType, r.timeStamp, [], [], [], [], []⟩
  match r.cellInfoType with
  | .gsm => { record with
      gsm := [{ r.gsm with mcc := toText r.gsm.mcc, mnc := toText r.gsm.mnc }] }
  | .wcdma => { record with
      wcdma := [{ r.wcdma with mcc := toText r.wcdma.mcc, mnc := toText r.wcdma.mnc }] }
  | .cdma => { record with cdma := [r.cdma] }
  | .lte => { record with
      lte := [{ r.lte with mcc := toText r.lte.mcc, mnc := toText r.lte.mnc }] }
  | .tdScdma => { record with
      tdscdma := [{ r.tdscdma with mcc := toText r.tdscdma.mcc, mnc := toText r.tdscdma.mnc }] }
  | .other _ => record

/-- How many cells a record of a type describes. -/
def CellInfoType.cells : CellInfoType → ℕ
  | .other _ => 0
  | _ => 1

/-- A record has the cell of its type, and no other. -/
theorem cells_convertCellInfo (r : RilCellInfo) :
    (convertCellInfo r).cells = r.cellInfoType.cells := by
  unfold convertCellInfo CellInfo.cells
  cases r.cellInfoType with
  | gsm | cdma | lte | wcdma | tdScdma | other n => rfl

/-- `radio::getCellInfoListResponse` -/
def getCellInfoListResponse (connected : Bool) (responseType serial e : ℤ)
    (response : Option (List RilCellInfo)) (responseLen : ℕ) :
    Except Fault (Option (RadioResponseInfo × List CellInfo)) :=
  respondArray connected responseType serial e sizeofCellInfo CellInfo.zero
    (fun r => .ok (convertCellInfo r)) response responseLen

/-! ## Hardware -/

inductive HardwareConfigType where
  | modem
  | sim
  | other (n : ℤ)
  deriving DecidableEq

structure HardwareConfigModem where
  rat : ℤ
  maxVoice : ℤ
  maxData : ℤ
  maxStandby : ℤ

/-- `RIL_HardwareConfig`, whose last two fields are a union.  Its texts are arrays. -/
structure RilHardwareConfig where
  type : HardwareConfigType
  uuid : Text
  state : ℤ
  modem : HardwareConfigModem
  modemUuid : Text

/-- `HardwareConfig` -/
structure HardwareConfig where
  type : HardwareConfigType
  uuid : Text
  state : ℤ
  modem : List HardwareConfigModem
  sim : List Text

def HardwareConfig.zero : HardwareConfig := ⟨.other 0, [], 0, [], []⟩

/-- The loop body of `convertRilHardwareConfigListToHal` -/
def convertHardwareConfig (r : RilHardwareConfig) : HardwareConfig :=
  let record : HardwareConfig := ⟨r.type, r.uuid, r.state, [], []⟩
  match r.type with
  | .modem => { record with modem := [r.modem], sim := [] }
  | .sim => { record with sim := [r.modemUuid], modem := [] }
  | .other _ => record

/-- `radio::getHardwareConfigResponse`; `size` is the size of a record. -/
def getHardwareConfigResponse (connected : Bool) (responseType serial e : ℤ) (size : ℕ)
    (response : Option (List RilHardwareConfig)) (responseLen : ℕ) :
    Except Fault (Option (RadioResponseInfo × List HardwareConfig)) :=
  respondArray connected responseType serial e size HardwareConfig.zero
    (fun r => .ok (convertHardwareConfig r)) response responseLen

/-! ## What an answer says -/

/-- The answers, without their lengths in bytes; `size` as in `getHardwareConfigResponse`. -/
inductive Answer (maxApps : ℕ) where
  | iccCardStatus (response : Option (RilCardStatus maxApps))
  | callForwardStatus (response : Option (List (Option RilCallForwardInfo)))
  | neighboringCids (response : Option (List (Option RilNeighboringCell)))
  | availableBandModes (response : Option (List ℤ))
  | requestStrings (response : Option (List (Option Text)))
  | iccOpenLogicalChannel (response : Option (List ℤ))
  | availableNetworks (response : Option (List (Option Text)))
  | cellInfoList (response : Option (List RilCellInfo))
  | hardwareConfig (size : ℕ) (response : Option (List RilHardwareConfig))

namespace Answer

variable {maxApps : ℕ}

/-- What the client receives, beside the header. -/
def Result : Answer maxApps → Type
  | iccCardStatus _ => CardStatus
  | callForwardStatus _ => List CallForwardInfo
  | neighboringCids _ => List NeighboringCell
  | availableBandModes _ => List ℤ
  | requestStrings _ => List Text
  | iccOpenLogicalChannel _ => ℤ × List ℤ
  | availableNetworks _ => List OperatorInfo
  | cellInfoList _ => List CellInfo
  | hardwareConfig _ _ => List HardwareConfig

/-- The handler of the answer. -/
def handle (connected : Bool) (responseType serial e : ℤ) (responseLen : ℕ) :
    (a : Answer maxApps) → Except Fault (Option (RadioResponseInfo × a.Result))
  | iccCardStatus response =>
      getIccCardStatusResponse connected responseType serial e response responseLen
  | callForwardStatus response =>
      getCallForwardStatusResponse connected responseType serial e response responseLen
  | neighboringCids response =>
      getNeighboringCidsResponse connected responseType serial e response responseLen
  | availableBandModes response =>
      getAvailableBandModesResponse connected responseType serial e response responseLen
  | requestStrings response =>
      sendRequestStringsResponse connected responseType serial e response responseLen
  | iccOpenLogicalChannel response =>
      iccOpenLogicalChannelResponse connected responseType serial e response responseLen
  | availableNetworks response =>
      getAvailableNetworksResponse connected responseType serial e response responseLen
  | cellInfoList response =>
      getCellInfoListResponse connected responseType serial e response responseLen
  | hardwareConfig size response =>
      getHardwareConfigResponse connected responseType serial e size response responseLen

/-- What the client receives for an answer that does not pass the check. -/
def nothing : (a : Answer maxApps) → a.Result
  | iccCardStatus _ => CardStatus.zero
  | callForwardStatus _ => ([] : List CallForwardInfo)
  | neighboringCids _ => ([] : List NeighboringCell)
  | availableBandModes _ => ([] : List ℤ)
  | requestStrings _ => ([] : List Text)
  | iccOpenLogicalChannel _ => ((-1, []) : ℤ × List ℤ)
  | availableNetworks _ => ([] : List OperatorInfo)
  | cellInfoList _ => ([] : List CellInfo)
  | hardwareConfig _ _ => ([] : List HardwareConfig)

end Answer

/-- What an answer that passes the check says: whether it can be read, whether the header stays as
it is, and the content. -/
structure Meaning (β : Type) where
  readable : Prop
  valid : Bool
  content : β

/-- An array of which the first elements are announced. -/
def arrayMeaning {α β : Type} (size : ℕ) (response : Option (List α)) (responseLen : ℕ)
    (readable : α → Bool) (content : List α → List β) : Option (Meaning (List β)) :=
  response.bind fun xs =>
    if responseLen % size ≠ 0 then none
    else
      let announced := xs.take (responseLen / size)
      some ⟨responseLen / size ≤ xs.length ∧ ∀ x ∈ announced, readable x = true, true,
        content announced⟩

/-- The networks that strings describe, four by four; `none` if the pointer to a status is null. -/
def networksOf : List (Option Text) → Option (List OperatorInfo)
  | [] => some []
  | alphaLong :: alphaShort :: operatorNumeric :: some status :: strings =>
      (networksOf strings).map fun networks =>
        ⟨textOf alphaLong, textOf alphaShort, textOf operatorNumeric,
          convertOperatorStatusToInt status⟩ :: networks
  | _ => none

/-- What an answer says, `none` if it does not pass the check of its length. -/
def Answer.meaning {maxApps : ℕ} (responseLen : ℕ) : (a : Answer maxApps) → Option (Meaning a.Result)
  | .iccCardStatus response => response.bind fun cur =>
      if responseLen ≠ sizeofCardStatus maxApps then none
      else some ⟨0 ≤ cur.numApplications ∧ cur.numApplications ≤ maxApps, true, cur.convert
        ((cur.applications.take cur.numApplications.toNat).map convertAppStatus)⟩
  | .callForwardStatus response => arrayMeaning sizeofPointer response responseLen Option.isSome
      fun ptrs => ptrs.reduceOption.map convertCallForwardInfo
  | .neighboringCids response => arrayMeaning sizeofPointer response responseLen Option.isSome
      fun ptrs => ptrs.reduceOption.map convertNeighboringCell
  | .availableBandModes response => arrayMeaning sizeofInt response responseLen (fun _ => true) id
  | .requestStrings response => arrayMeaning sizeofPointer response responseLen (fun _ => true)
      (List.map textOf)
  | .iccOpenLogicalChannel response => response.bind fun pInt =>
      if responseLen % sizeofInt ≠ 0 then none
      else some ⟨0 < responseLen / sizeofInt ∧ responseLen / sizeofInt ≤ pInt.length, true,
        pInt.headD 0, ((pInt.take (responseLen / sizeofInt)).tail).map toInt8⟩
  | .availableNetworks response => response.bind fun resp =>
      if responseLen % (4 * sizeofPointer) ≠ 0 then none
      else
        let networks := networksOf (resp.take (responseLen / sizeofPointer))
        some ⟨responseLen / sizeofPointer ≤ resp.length ∧ networks.isSome,
          (networks.getD []).all (·.status.isSome), networks.getD []⟩
  | .cellInfoList response => arrayMeaning sizeofCellInfo response responseLen (fun _ => true)
      (List.map convertCellInfo)
  | .hardwareConfig size response => arrayMeaning size response responseLen (fun _ => true)
      (List.map convertHardwareConfig)

/-- What the client is told: nothing if there is no client, an empty answer with an error if the
answer does not pass its check, and else what it says, if it can be read. -/
def Tells {β : Type} (connected : Bool) (info : RadioResponseInfo) (e : ℤ) (nothing : β)
    (meaning : Option (Meaning β)) (told : Option (RadioResponseInfo × β)) : Prop :=
  match connected, meaning with
  | false, _ => told = none
  | true, none => told = some (info.invalidResponse e, nothing)
  | true, some m => m.readable ∧
      told = some (if m.valid then info else info.invalidResponse e, m.content)

/-! ## The handlers and the meaning -/

section Agrees

variable {α β : Type} {e : ℤ}

/-- What a handler does with an answer is what the answer says. -/
def Agrees (e : ℤ) (payload : Option (RadioResponseInfo → Except Fault (RadioResponseInfo × β)))
    (meaning : Option (Meaning β)) : Prop :=
  match payload, meaning with
  | none, none => True
  | some convert, some m => ∀ info told, convert info = .ok told ↔
      m.readable ∧ told = (if m.valid then info else info.invalidResponse e, m.content)
  | _, _ => False

theorem respond_eq_ok_iff {payload : Option (RadioResponseInfo → Except Fault (RadioResponseInfo × β))}
    {meaning : Option (Meaning β)} (h : Agrees e payload meaning) (connected : Bool)
    (responseType serial : ℤ) (nothing : β) (told : Option (RadioResponseInfo × β)) :
    respond connected responseType serial e nothing payload = .ok told ↔
      Tells connected (populateResponseInfo serial responseType e) e nothing meaning told := by
  unfold respond Tells
  cases connected with
  | false => exact ⟨fun h => (Except.ok.inj h).symm, fun h => congrArg Except.ok h.symm⟩
  | true =>
      rw [if_pos rfl]
      cases payload with
      | none =>
          cases meaning with
          | none => exact ⟨fun h => (Except.ok.inj h).symm, fun h => congrArg Except.ok h.symm⟩
          | some m => exact h.elim
      | some convert =>
          cases meaning with
          | none => exact h.elim
          | some m =>
              dsimp only
              rw [bind_eq_ok_iff]
              constructor
              · rintro ⟨r, hr, htold⟩
                obtain ⟨hreadable, rfl⟩ := (h _ r).1 hr
                exact ⟨hreadable, (Except.ok.inj htold).symm⟩
              · rintro ⟨hreadable, rfl⟩
                exact ⟨_, (h _ _).2 ⟨hreadable, rfl⟩, rfl⟩

/-- A check that fails, or a meaning. -/
theorem agrees_bind {γ : Type} {response : Option γ} {bad : γ → Prop} [∀ x, Decidable (bad x)]
    {convert : γ → RadioResponseInfo → Except Fault (RadioResponseInfo × β)}
    {meaning : γ → Meaning β}
    (h : ∀ x ∈ response, ¬ bad x → Agrees e (some (convert x)) (some (meaning x))) :
    Agrees e (response.bind fun x => if bad x then none else some (convert x))
      (response.bind fun x => if bad x then none else some (meaning x)) := by
  cases response with
  | none => trivial
  | some x =>
      rw [Option.bind_some, Option.bind_some]
      by_cases hbad : bad x
      · rw [if_pos hbad, if_pos hbad]
        trivial
      · rw [if_neg hbad, if_neg hbad]
        exact h x rfl hbad

/-- An array is read as far as it is announced. -/
theorem respondArray_eq_ok_iff {size : ℕ} {zero : β} {convert : α → Except Fault β}
    {readable : α → Bool} {content : List α → List β}
    (hconvert : ∀ xs out, List.Forall₂ (fun x b => convert x = .ok b) xs out ↔
      (∀ x ∈ xs, readable x = true) ∧ out = content xs)
    (connected : Bool) (responseType serial : ℤ) (response : Option (List α)) (responseLen : ℕ)
    (told : Option (RadioResponseInfo × List β)) :
    respondArray connected responseType serial e size zero convert response responseLen = .ok told ↔
      Tells connected (populateResponseInfo serial responseType e) e []
        (arrayMeaning size response responseLen readable content) told := by
  apply respond_eq_ok_iff
  apply agrees_bind
  intro xs _ _ info r
  rw [bind_eq_ok_iff]
  simp only [copyArray_eq_ok_iff, hconvert]
  constructor
  · rintro ⟨out, ⟨hlength, hreadable, rfl⟩, hr⟩
    exact ⟨⟨hlength, hreadable⟩, (Except.ok.inj hr).symm⟩
  · rintro ⟨⟨hlength, hreadable⟩, rfl⟩
    exact ⟨_, ⟨hlength, hreadable, rfl⟩, rfl⟩

/-- Elements that can all be read. -/
theorem forall₂_pure_iff {h : α → β} (xs : List α) (out : List β) :
    List.Forall₂ (fun a b => (.ok (h a) : Except Fault β) = .ok b) xs out ↔
      (∀ x ∈ xs, (fun _ => true) x = true) ∧ out = xs.map h := by
  rw [forall₂_ok_iff]
  exact ⟨fun heq => ⟨fun _ _ => rfl, heq⟩, fun heq => heq.2⟩

end Agrees

/-! ## Counts that are announced -/

section Counts

variable {e : ℤ} {responseLen : ℕ}

theorem iccCardStatus_agrees {maxApps : ℕ} (cur : RilCardStatus maxApps) :
    Agrees e
      (some fun info => do
        let applications ← resize AppStatus.zero cur.numApplications
        let applications ← copyLoop
          (fun i => readAt cur.applications i >>= fun r => .ok (convertAppStatus r))
          0 cur.numApplications.toNat applications
        return (info, cur.convert applications))
      (some ⟨0 ≤ cur.numApplications ∧ cur.numApplications ≤ maxApps, true, cur.convert
        ((cur.applications.take cur.numApplications.toNat).map convertAppStatus)⟩) := by
  intro info told
  rw [bind_eq_ok_iff]
  simp only [resize_eq_ok_iff, bind_eq_ok_iff]
  constructor
  · rintro ⟨room, ⟨hn, rfl⟩, applications, hcopy, htold⟩
    obtain ⟨hlength, hall⟩ := copyArray_eq_ok_iff.1 hcopy
    rw [forall₂_ok_iff] at hall
    subst hall
    rw [cur.size] at hlength
    exact ⟨⟨hn, by omega⟩, (Except.ok.inj htold).symm⟩
  · rintro ⟨⟨hn, hmax⟩, rfl⟩
    refine ⟨_, ⟨hn, rfl⟩, _, copyArray_eq_ok_iff.2 ⟨?_, forall₂_ok_iff.2 rfl⟩, rfl⟩
    rw [cur.size]
    omega

theorem iccOpenLogicalChannel_agrees (pInt : List ℤ) (numInts : ℕ) :
    Agrees e
      (some fun info => do
        let channelId ← readAt pInt 0
        let selectResponse ← resize 0 ((numInts : ℤ) - 1)
        let selectResponse ← copyLoop
          (fun i => readAt pInt (i + 1) >>= fun x => .ok (toInt8 x)) 0 (numInts - 1)
          selectResponse
        return (info, channelId, selectResponse))
      (some ⟨0 < numInts ∧ numInts ≤ pInt.length, true, pInt.headD 0,
        ((pInt.take numInts).tail).map toInt8⟩) := by
  intro info told
  cases pInt with
  | nil =>
      constructor
      · rintro ⟨⟩
      · rintro ⟨⟨hpos, hlength⟩, -⟩
        rw [List.length_nil] at hlength
        omega
  | cons channelId pInt =>
      have hread : readAt (channelId :: pInt) 0 = .ok channelId := rfl
      beta_reduce
      rw [hread, ok_bind, bind_eq_ok_iff]
      simp only [resize_eq_ok_iff, bind_eq_ok_iff]
      have hloop : ∀ out, copyLoop (fun i => readAt (channelId :: pInt) (i + 1) >>=
          fun x => .ok (toInt8 x)) 0 (numInts - 1) (List.replicate (numInts - 1) 0) = .ok out ↔
          numInts - 1 ≤ pInt.length ∧ out = (pInt.take (numInts - 1)).map toInt8 := by
        intro out
        have hcopy := @copyArray_eq_ok_iff ℤ ℤ (fun x => .ok (toInt8 x)) 0 pInt (numInts - 1) out
        rw [forall₂_ok_iff] at hcopy
        exact hcopy
      have hsize : ((numInts : ℤ) - 1).toNat = numInts - 1 := by omega
      constructor
      · rintro ⟨room, ⟨hn, rfl⟩, out, hcopy, htold⟩
        rw [hsize] at hcopy
        obtain ⟨hlength, rfl⟩ := (hloop out).1 hcopy
        have hpos : 0 < numInts := by omega
        refine ⟨⟨hpos, by rw [List.length_cons]; omega⟩, ?_⟩
        obtain ⟨n, rfl⟩ := Nat.exists_eq_succ_of_ne_zero (Nat.ne_of_gt hpos)
        exact (Except.ok.inj htold).symm
      · rintro ⟨⟨hpos, hlength⟩, rfl⟩
        rw [List.length_cons] at hlength
        refine ⟨_, ⟨by omega, rfl⟩, (pInt.take (numInts - 1)).map toInt8, ?_, ?_⟩
        · rw [hsize]
          exact (hloop _).2 ⟨by omega, rfl⟩
        · obtain ⟨n, rfl⟩ := Nat.exists_eq_succ_of_ne_zero (Nat.ne_of_gt hpos)
          rfl

end Counts

/-! ## Strings, four by four -/

section Networks

variable {e : ℤ}

theorem convertNetwork_succ (alphaLong alphaShort operatorNumeric ptr : Option Text)
    (strings : List (Option Text)) (j : ℕ) :
    convertNetwork (alphaLong :: alphaShort :: operatorNumeric :: ptr :: strings) (j + 1) =
      convertNetwork strings j := rfl

/-- The first four strings are read, and the last of them has a character. -/
theorem convertNetwork_zero_eq_ok_iff (alphaLong alphaShort operatorNumeric ptr : Option Text)
    (strings : List (Option Text)) (network : OperatorInfo) :
    convertNetwork (alphaLong :: alphaShort :: operatorNumeric :: ptr :: strings) 0 =
        .ok network ↔
      ∃ status, ptr = some status ∧ network = ⟨textOf alphaLong, textOf alphaShort,
        textOf operatorNumeric, convertOperatorStatusToInt status⟩ := by
  cases ptr with
  | none =>
      constructor
      · rintro ⟨⟩
      · rintro ⟨status, ⟨⟩, -⟩
  | some status =>
      constructor
      · exact fun h => ⟨status, rfl, (Except.ok.inj h).symm⟩
      · rintro ⟨status', hstatus, rfl⟩
        cases hstatus
        rfl

/-- A network needs four strings. -/
theorem convertNetwork_zero_length {resp : List (Option Text)} {network : OperatorInfo}
    (h : convertNetwork resp 0 = .ok network) : 4 ≤ resp.length := by
  match resp with
  | [] | [_] | [_, _] | [_, _, _] => cases h
  | _ :: _ :: _ :: _ :: strings =>
      simp only [List.length_cons]
      omega

/-- The loop yields the networks that the strings describe. -/
theorem yields_convertNetwork_iff {resp : List (Option Text)} {networks : List OperatorInfo} :
    Yields (convertNetwork resp) 0 networks ↔
      4 * networks.length ≤ resp.length ∧
        networksOf (resp.take (4 * networks.length)) = some networks := by
  induction networks generalizing resp with
  | nil =>
      constructor
      · exact fun _ => ⟨Nat.zero_le _, rfl⟩
      · exact fun _ => trivial
  | cons network networks ih =>
      match resp with
      | alphaLong :: alphaShort :: operatorNumeric :: ptr :: strings =>
          have htake : (alphaLong :: alphaShort :: operatorNumeric :: ptr :: strings).take
              (4 * (networks.length + 1)) = alphaLong :: alphaShort :: operatorNumeric :: ptr ::
                strings.take (4 * networks.length) := rfl
          rw [Yields, convertNetwork_zero_eq_ok_iff,
            yields_succ_iff (convertNetwork_succ alphaLong alphaShort operatorNumeric ptr strings),
            ih, List.length_cons, htake]
          simp only [List.length_cons]
          constructor
          · rintro ⟨⟨status, rfl, rfl⟩, hlength, hnetworks⟩
            refine ⟨by omega, ?_⟩
            rw [networksOf, hnetworks, Option.map_some]
          · rintro ⟨hlength, hnetworks⟩
            cases ptr with
            | none => cases hnetworks
            | some status =>
                rw [networksOf, Option.map_eq_some_iff] at hnetworks
                obtain ⟨rest, hrest, heq⟩ := hnetworks
                obtain ⟨rfl, rfl⟩ := List.cons.inj heq
                exact ⟨⟨status, rfl, rfl⟩, by omega, hrest⟩
      | [] | [_] | [_, _] | [_, _, _] =>
          constructor
          · exact fun h => absurd (convertNetwork_zero_length h.1) (by simp)
          · intro h
            have hlength := h.1
            simp only [List.length_cons, List.length_nil] at hlength
            omega

/-- Strings that are networks come in fours. -/
theorem length_of_networksOf {strings : List (Option Text)} {networks : List OperatorInfo}
    (h : networksOf strings = some networks) : strings.length = 4 * networks.length := by
  induction strings using networksOf.induct generalizing networks with
  | case1 =>
      cases h
      rfl
  | case2 alphaLong alphaShort operatorNumeric status strings ih =>
      rw [networksOf, Option.map_eq_some_iff] at h
      obtain ⟨rest, hrest, rfl⟩ := h
      simp only [List.length_cons, ih hrest]
      omega
  | case3 strings hnil hcons =>
      rw [networksOf] at h
      · cases h
      · exact hnil
      · exact hcons

/-- The loop, and the error that a status which is not known sets. -/
theorem availableNetworks_agrees (resp : List (Option Text)) (numStrings : ℕ)
    (hfour : numStrings % 4 = 0) :
    Agrees e
      (some fun info => do
        let networks ← copyLoop (convertNetwork resp) 0 (numStrings / 4)
          (List.replicate (numStrings / 4) OperatorInfo.zero)
        let info := if networks.any (·.status.isNone) then info.invalidResponse e else info
        return (info, networks))
      (some ⟨numStrings ≤ resp.length ∧ (networksOf (resp.take numStrings)).isSome,
        ((networksOf (resp.take numStrings)).getD []).all (·.status.isSome),
        (networksOf (resp.take numStrings)).getD []⟩) := by
  intro info told
  have hnum : 4 * (numStrings / 4) = numStrings := by omega
  have hheader : ∀ networks : List OperatorInfo,
      (if networks.any (·.status.isNone) then info.invalidResponse e else info) =
        if networks.all (·.status.isSome) then info else info.invalidResponse e := by
    intro networks
    have hnot : networks.all (·.status.isSome) = !networks.any (·.status.isNone) := by
      simp [List.all_eq_not_any_not]
    rw [hnot]
    cases networks.any (·.status.isNone) with
    | false => rfl
    | true => rfl
  rw [bind_eq_ok_iff]
  simp only [copyLoop_eq_ok_iff, yields_convertNetwork_iff]
  constructor
  · rintro ⟨networks, ⟨hcount, hlength, hnetworks⟩, htold⟩
    rw [hcount, hnum] at hlength hnetworks
    rw [hnetworks]
    refine ⟨⟨hlength, rfl⟩, ?_⟩
    rw [hheader networks] at htold
    exact (Except.ok.inj htold).symm
  · rintro ⟨⟨hlength, hsome⟩, rfl⟩
    obtain ⟨networks, hnetworks⟩ := Option.isSome_iff_exists.1 hsome
    have hcount : networks.length = numStrings / 4 := by
      have htake := length_of_networksOf hnetworks
      rw [List.length_take, Nat.min_eq_left hlength] at htake
      omega
    refine ⟨networks, ⟨hcount, ?_⟩, ?_⟩
    · rw [hcount, hnum]
      exact ⟨hlength, hnetworks⟩
    · rw [hheader networks, hnetworks]
      rfl

end Networks

/-- The client is told what the answer says.  A run ends without a fault exactly when the answer
can be read: what it announces is there, and no pointer that is followed is null. -/
theorem answers_exact {maxApps : ℕ} (a : Answer maxApps) (connected : Bool)
    (responseType serial e : ℤ) (responseLen : ℕ) (told : Option (RadioResponseInfo × a.Result)) :
    a.handle connected responseType serial e responseLen = .ok told ↔
      Tells connected (populateResponseInfo serial responseType e) e a.nothing
        (a.meaning responseLen) told := by
  cases a with
  | iccCardStatus response =>
      apply respond_eq_ok_iff
      exact agrees_bind fun cur _ _ => iccCardStatus_agrees cur
  | callForwardStatus response =>
      exact respondArray_eq_ok_iff (fun ptrs out => forall₂_deref_iff) connected responseType
        serial response responseLen told
  | neighboringCids response =>
      exact respondArray_eq_ok_iff (fun ptrs out => forall₂_deref_iff) connected responseType
        serial response responseLen told
  | availableBandModes response =>
      apply respondArray_eq_ok_iff
      intro modes out
      rw [forall₂_pure_iff modes out, List.map_id']
      rfl
  | requestStrings response =>
      apply respondArray_eq_ok_iff
      exact forall₂_pure_iff
  | iccOpenLogicalChannel response =>
      apply respond_eq_ok_iff
      exact agrees_bind fun pInt _ _ => iccOpenLogicalChannel_agrees pInt _
  | availableNetworks response =>
      apply respond_eq_ok_iff
      apply agrees_bind
      intro resp _ hlength
      apply availableNetworks_agrees
      unfold sizeofPointer at hlength ⊢
      omega
  | cellInfoList response =>
      apply respondArray_eq_ok_iff
      exact forall₂_pure_iff
  | hardwareConfig size response =>
      apply respondArray_eq_ok_iff
      exact forall₂_pure_iff

end Radio.ListAnswers
