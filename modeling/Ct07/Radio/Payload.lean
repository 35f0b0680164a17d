/-
# What the dispatchers of requests build (`ril_service.cpp`)

Every function of the service that hands a request to `my_enqueue`: the dispatch helpers, and
the methods that lay out a structure of their own.  Each one is run in an empty memory and
gives what it calls `my_enqueue` with, the memory at that time, and the pointers that it frees
when `my_enqueue` has returned.

* `dispatchString`, `dispatchStrings`, `dispatchInts`, … : the helpers;
* `dial`, `iccIOForApp`, `setDataProfile`, … : the methods;
* `Dispatcher`, `dispatch` : all of them, with their arguments.

A structure is the list of its fields, in the order of `ril.h`.  `setRadioCapability` is not
here: in this build it answers the request itself.
-/
import Ct07.Radio.AttachApn
import Ct07.Radio.PayloadMemory
import Ct07.Ril.ChannelQueue
import Ct07.Ril.Selection

open Ril (RilRequest BufFmts CommandInfo)

namespace Radio.Payload

/-! ## The environment -/

/-- What a dispatcher reads besides its arguments. -/
structure Env where
  /-- `s_vendorFunctions->version` -/
  version : ℤ
  slotId : ℕ
  slotId_lt : slotId < 2
  /-- what follows `s_commands` in memory -/
  beyond : ℕ → CommandInfo
  /-- whether the allocation of a block succeeds -/
  malloc : ℕ → Bool
  /-- `persist.vendor.ril.gr_le`, empty when it is not set -/
  grLe : Text
  /-- the operator of the slot, from `gsm.sim.operator.numeric` -/
  operatorNumeric : Text

def Env.commands (env : Env) : Ril.Commands := ⟨Ril.sCommands, env.beyond⟩

/-- Memory for everything, and a vendor of version 12. -/
def plainEnv : Env := ⟨12, 0, Nat.zero_lt_two, fun _ => ⟨0, none, 0⟩, fun _ => true, [], []⟩

/-- The row of the command table that `addRequestToList` picks for a request. -/
def Env.commandInfo (env : Env) (r : RilRequest) : CommandInfo :=
  env.commands.at (Ril.commandIndex 0 r.code)

/-- The proxies that take one request at a time. -/
def isQueuing (proxyId : Ril.RILChannelId) : Bool :=
  proxyId = Ril.rilCmdProxy1 || proxyId = Ril.rilCmdProxy3

/-- `ignoreBF` -/
def ignoreBF (env : Env) (r : RilRequest) : Bool := !isQueuing (env.commandInfo r).proxyId

/-- The arguments of `my_enqueue`. -/
structure Call where
  request : ℕ
  buf : Ptr
  buflen : ℕ
  bf : BufFmts
  deriving DecidableEq

/-- What a dispatcher does: the memory when it calls `my_enqueue`, or when it has given up, the
call, and the pointers that it frees after the call. -/
structure Prepared where
  mem : Mem
  call : Option Call
  after : List Ptr

/-- The client has been sent an error. -/
def gaveUp (m : Mem) : Prepared := ⟨m, none, []⟩

/-! ## The dispatch helpers -/

def dispatchVoid (r : RilRequest) : Prepared := ⟨Mem.init, some ⟨r.code, none, 0, .void⟩, []⟩

/-- `str` is a `const char *`. -/
def dispatchString (env : Env) (r : RilRequest) (str : Text) : Prepared :=
  match copyHidlStringToRil env.malloc Mem.init (cStr str) false with
  | (none, m) => gaveUp m
  | (some pString, m) =>
      if ignoreBF env r then ⟨m, some ⟨r.code, pString, sizeofPointer, .ignore⟩, [pString]⟩
      else ⟨m, some ⟨r.code, pString, sizeofPointer, .str⟩, []⟩

/-- What both functions `dispatchStrings` do with their strings. -/
def sendStrings (env : Env) (r : RilRequest) (srcs : List Field) : Prepared :=
  let pStrings := Mem.init.here
  if env.malloc Mem.init.next then
    let m := Mem.init.alloc (List.replicate srcs.length (.ptr none))
    match copyFields env.malloc m srcs with
    | (ps, false, m) => gaveUp ((memsetAndFreeStrings m ps).free pStrings)
    | (ps, true, m) =>
        let strings := ps.map Cell.ptr
        let m := m.write pStrings strings
        if ignoreBF env r then
          ⟨m, some ⟨r.code, some pStrings, sizeof strings, .ignore⟩, ps ++ [some pStrings]⟩
        else ⟨m, some ⟨r.code, some pStrings, sizeof strings, .strs⟩, []⟩
  else gaveUp Mem.init

/-- `dispatchStrings` with its strings as arguments, each a `const char *`. -/
def dispatchStrings (env : Env) (r : RilRequest) (allowEmpty : Bool) (strs : List Text) :
    Prepared := sendStrings env r (strs.map fun s => (cStr s, allowEmpty))

/-- `dispatchStrings` of a `hidl_vec`. -/
def dispatchStringVec (env : Env) (r : RilRequest) (data : List Text) : Prepared :=
  sendStrings env r (data.map fun s => (s, false))

def dispatchInts (env : Env) (r : RilRequest) (ints : List ℤ) : Prepared :=
  let pInts := Mem.init.here
  if env.malloc Mem.init.next then
    let cells := ints.map Cell.int
    let m := Mem.init.alloc cells
    if ignoreBF env r then
      ⟨m, some ⟨r.code, some pInts, sizeof cells, .ignore⟩, [some pInts]⟩
    else ⟨m, some ⟨r.code, some pInts, sizeof cells, .ints⟩, []⟩
  else gaveUp Mem.init

def dispatchRaw (r : RilRequest) (rawBytes : List ℕ) : Prepared :=
  let cells := rawBytes.map Cell.byte
  ⟨Mem.init.push cells, some ⟨r.code, some Mem.init.here, sizeof cells, .ignore⟩, []⟩

/-- A structure in the dispatcher's frame, with pointers to copies of the strings `srcs`. -/
def sendRecord (env : Env) (r : RilRequest) (srcs : List Field) (record : List Ptr → List Cell)
    (bf : BufFmts) : Prepared :=
  match copyFields env.malloc Mem.init srcs with
  | (ps, false, m) => gaveUp (memsetAndFreeStrings m ps)
  | (ps, true, m) =>
      ⟨m.push (record ps), some ⟨r.code, some m.here, sizeof (record ps), bf⟩,
        if bf = .ignore then ps else []⟩

structure CallForwardInfo where
  status : ℤ
  reason : ℤ
  serviceClass : ℤ
  toa : ℤ
  number : Text
  timeSeconds : ℤ
  deriving DecidableEq

def rilCallForwardInfo (c : CallForwardInfo) (ps : List Ptr) : List Cell :=
  [.int c.status, .int c.reason, .int c.serviceClass, .int c.toa, .ptr (ps.getD 0 none),
    .int c.timeSeconds]

def dispatchCallForwardStatus (env : Env) (r : RilRequest) (callInfo : CallForwardInfo) :
    Prepared :=
  sendRecord env r [(callInfo.number, false)] (rilCallForwardInfo callInfo)
    (if ignoreBF env r then .ignore else .callFwst)

structure SimApdu where
  sessionId : ℤ
  cla : ℤ
  instruction : ℤ
  p1 : ℤ
  p2 : ℤ
  p3 : ℤ
  data : Text
  deriving DecidableEq

def rilSimApdu (a : SimApdu) (ps : List Ptr) : List Cell :=
  [.int a.sessionId, .int a.cla, .int a.instruction, .int a.p1, .int a.p2, .int a.p3,
    .ptr (ps.getD 0 none)]

def dispatchIccApdu (env : Env) (r : RilRequest) (message : SimApdu) : Prepared :=
  sendRecord env r [(message.data, false)] (rilSimApdu message) .iccApdu

/-! ## Calls, SIM files and stored messages -/

structure UusInfo where
  uusType : ℤ
  uusDcs : ℤ
  uusData : Text
  deriving DecidableEq

structure Dial where
  address : Text
  clir : ℤ
  uusInfo : List UusInfo
  deriving DecidableEq

def rilUusInfo (u : UusInfo) (uusData : Ptr) : List Cell :=
  [.int u.uusType, .int u.uusDcs, .int u.uusData.length, .ptr uusData]

def dial (env : Env) (dialInfo : Dial) : Prepared :=
  -- without a `uusInfo` its zeroed structure stays unused
  let u := dialInfo.uusInfo.headD ⟨0, 0, []⟩
  match copyFields env.malloc Mem.init [(dialInfo.address, false), (u.uusData, false)] with
  | (ps, false, m) => gaveUp (memsetAndFreeStrings m ps)
  | (ps, true, m) =>
      let uusInfo := if dialInfo.uusInfo = [] then none else some m.here
      let m := m.push (rilUusInfo u (ps.getD 1 none))
      let cells := [.ptr (ps.getD 0 none), .int dialInfo.clir, .ptr uusInfo]
      ⟨m.push cells, some ⟨RilRequest.dial.code, some m.here, sizeof cells, .ignore⟩, ps⟩

structure IccIo where
  command : ℤ
  fileId : ℤ
  path : Text
  p1 : ℤ
  p2 : ℤ
  p3 : ℤ
  data : Text
  pin2 : Text
  aid : Text
  deriving DecidableEq

/-- The third parameter that is sent: for GET RESPONSE the property or 64. -/
def Env.p3 (env : Env) (iccIo : IccIo) : ℤ :=
  if iccIo.command = 0xc0 then (if env.grLe.length > 0 then atoi env.grLe else 64) else iccIo.p3

def rilSimIo (env : Env) (i : IccIo) (path : Ptr) (ps : List Ptr) : List Cell :=
  [.int i.command, .int i.fileId, .ptr path, .int i.p1, .int i.p2, .int (env.p3 i),
    .ptr (ps.getD 0 none), .ptr (ps.getD 1 none), .ptr (ps.getD 2 none)]

/-- The path names the MF alone. -/
def isBareMf (path : Text) : Bool := cStr path = "3F00".toList

def iccIOForApp (env : Env) (iccIo : IccIo) : Prepared :=
  match copyHidlStringToRil env.malloc Mem.init iccIo.path false with
  | (none, m) => gaveUp m
  | (some path, m) =>
      -- the pointer to the copy is overwritten
      let path := if isBareMf iccIo.path then none else path
      match copyFields env.malloc m
          [(iccIo.data, false), (iccIo.pin2, false), (iccIo.aid, false)] with
      | (ps, false, m) => gaveUp (memsetAndFreeStrings m (path :: ps))
      | (ps, true, m) =>
          let cells := rilSimIo env iccIo path ps
          ⟨m.push cells, some ⟨RilRequest.simIo.code, some m.here, sizeof cells, .simio⟩, []⟩

structure SmsWriteArgs where
  status : ℤ
  pdu : Text
  smsc : Text
  deriving DecidableEq

def rilSmsWriteArgs (a : SmsWriteArgs) (ps : List Ptr) : List Cell :=
  [.int a.status, .ptr (ps.getD 0 none), .ptr (ps.getD 1 none)]

def writeSmsToSim (env : Env) (smsWriteArgs : SmsWriteArgs) : Prepared :=
  sendRecord env .writeSmsToSim [(smsWriteArgs.pdu, false), (smsWriteArgs.smsc, false)]
    (rilSmsWriteArgs smsWriteArgs) .wrSmsSim

structure SimAuthentication where
  authContext : ℤ
  authData : Text
  aid : Text
  deriving DecidableEq

def rilSimAuthentication (a : SimAuthentication) (ps : List Ptr) : List Cell :=
  [.int a.authContext, .ptr (ps.getD 0 none), .ptr (ps.getD 1 none)]

def requestIccSimAuthentication (env : Env) (a : SimAuthentication) : Prepared :=
  sendRecord env .simAuthentication [(a.authData, false), (a.aid, false)]
    (rilSimAuthentication a) .simAuth

structure NvWriteItem where
  itemId : ℤ
  value : Text
  deriving DecidableEq

def nvReadItem (env : Env) (itemId : ℤ) : Prepared :=
  sendRecord env .nvReadItem [] (fun _ => [.int itemId]) .ignore

def nvWriteItem (env : Env) (item : NvWriteItem) : Prepared :=
  sendRecord env .nvWriteItem [(item.value, false)]
    (fun ps => [.int item.itemId, .ptr (ps.getD 0 none)]) .ignore

structure SelectUiccSub where
  slot : ℤ
  appIndex : ℤ
  subType : ℤ
  actStatus : ℤ
  deriving DecidableEq

def setUiccSubscription (env : Env) (uiccSub : SelectUiccSub) : Prepared :=
  sendRecord env .setUiccSubscription []
    (fun _ => [.int uiccSub.slot, .int uiccSub.appIndex, .int uiccSub.subType,
      .int uiccSub.actStatus]) .raw

/-! ## CDMA messages and broadcast configurations -/

structure CdmaSmsAddress where
  digitMode : ℤ
  numberMode : ℤ
  numberType : ℤ
  numberPlan : ℤ
  digits : List ℕ
  deriving DecidableEq

structure CdmaSmsSubaddress where
  subaddressType : ℤ
  odd : Bool
  digits : List ℕ
  deriving DecidableEq

structure CdmaSmsMessage where
  teleserviceId : ℤ
  isServicePresent : Bool
  serviceCategory : ℤ
  address : CdmaSmsAddress
  subAddress : CdmaSmsSubaddress
  bearerData : List ℕ
  deriving DecidableEq

def rilCdmaSmsAddressMax : ℕ := 36

def rilCdmaSmsSubaddressMax : ℕ := 36

def rilCdmaSmsBearerDataMax : ℕ := 255

/-- The first `count` bytes, at most `max`, in a zeroed array of `max`. -/
def byteArray (max count : ℕ) (bytes : List ℕ) : List Cell :=
  let digits := bytes.take (min count max)
  (digits ++ List.replicate (max - digits.length) 0).map Cell.byte

/-- `constructCdmaSms`; the two numbers of digits are of type `unsigned char`. -/
def constructCdmaSms (sms : CdmaSmsMessage) : List Cell :=
  let addressDigits := sms.address.digits.length % 256
  let subaddressDigits := sms.subAddress.digits.length % 256
  [.int sms.teleserviceId, .byte sms.isServicePresent.toNat, .int sms.serviceCategory,
    .int sms.address.digitMode, .int sms.address.numberMode, .int sms.address.numberType,
    .int sms.address.numberPlan, .byte addressDigits] ++
  byteArray rilCdmaSmsAddressMax addressDigits sms.address.digits ++
  [.int sms.subAddress.subaddressType, .byte sms.subAddress.odd.toNat,
    .byte subaddressDigits] ++
  byteArray rilCdmaSmsSubaddressMax subaddressDigits sms.subAddress.digits ++
  .int sms.bearerData.length ::
    byteArray rilCdmaSmsBearerDataMax sms.bearerData.length sms.bearerData

def sendCdmaSms (env : Env) (sms : CdmaSmsMessage) : Prepared :=
  sendRecord env .cdmaSendSms [] (fun _ => constructCdmaSms sms) .raw

structure CdmaSmsWriteArgs where
  status : ℤ
  message : CdmaSmsMessage
  deriving DecidableEq

def writeSmsToRuim (env : Env) (cdmaSms : CdmaSmsWriteArgs) : Prepared :=
  sendRecord env .cdmaWriteSmsToRuim []
    (fun _ => .int cdmaSms.status :: constructCdmaSms cdmaSms.message) .raw

structure CdmaSmsAck where
  errorClass : ℤ
  smsCauseCode : ℤ
  deriving DecidableEq

def acknowledgeLastIncomingCdmaSms (env : Env) (smsAck : CdmaSmsAck) : Prepared :=
  sendRecord env .cdmaSmsAcknowledge []
    (fun _ => [.int smsAck.errorClass, .int smsAck.smsCauseCode]) .raw

/-- Pointers to the `n` structures of an array, each of `width` cells. -/
def pointersInto (a : Addr) (width n : ℕ) : List Cell :=
  (List.range n).map fun i => .ptr (some ⟨a.block, a.cell + width * i⟩)

/-- An array of structures and one of pointers to them, both in the dispatcher's frame. -/
def sendConfigs (r : RilRequest) (width : ℕ) (configs : List (List Cell)) : Prepared :=
  let m := Mem.init.push configs.flatten
  let ptrs := pointersInto Mem.init.here width configs.length
  ⟨m.push ptrs, some ⟨r.code, some m.here, sizeof ptrs, .raw⟩, []⟩

structure GsmBroadcastSmsConfigInfo where
  fromServiceId : ℤ
  toServiceId : ℤ
  fromCodeScheme : ℤ
  toCodeScheme : ℤ
  selected : Bool
  deriving DecidableEq

def rilGsmBroadcastSmsConfigInfo (c : GsmBroadcastSmsConfigInfo) : List Cell :=
  [.int c.fromServiceId, .int c.toServiceId, .int c.fromCodeScheme, .int c.toCodeScheme,
    .byte c.selected.toNat]

def setGsmBroadcastConfig (configInfo : List GsmBroadcastSmsConfigInfo) : Prepared :=
  sendConfigs .gsmSetBroadcastSmsConfig 5 (configInfo.map rilGsmBroadcastSmsConfigInfo)

structure CdmaBroadcastSmsConfigInfo where
  serviceCategory : ℤ
  language : ℤ
  selected : Bool
  deriving DecidableEq

def rilCdmaBroadcastSmsConfigInfo (c : CdmaBroadcastSmsConfigInfo) : List Cell :=
  [.int c.serviceCategory, .int c.language, .byte c.selected.toNat]

def setCdmaBroadcastConfig (configInfo : List CdmaBroadcastSmsConfigInfo) : Prepared :=
  sendConfigs .cdmaSetBroadcastSmsConfig 3 (configInfo.map rilCdmaBroadcastSmsConfigInfo)

/-! ## The initial attach APN -/

structure DataProfileInfo extends AttachApn.DataProfileInfo where
  profileId : ℤ
  type : ℤ
  maxConnsTime : ℤ
  maxConns : ℤ
  waitTime : ℤ
  enabled : Bool
  deriving DecidableEq

/-- `if (p == NULL) p = (char *) calloc(1, sizeof(char));` for each pointer. -/
def fillEmpty (m : Mem) : List Ptr → List Ptr × Mem
  | [] => ([], m)
  | some a :: ps =>
      let (qs, m) := fillEmpty m ps
      (some a :: qs, m)
  | none :: ps =>
      let (qs, m') := fillEmpty (m.alloc [.char nul]) ps
      (some m.here :: qs, m')

/-- `RIL_InitialAttachApn`, which ends with `dualApnPlmnList`. -/
def rilInitialAttachApn (authType : ℤ) (ps : List Ptr) (operatorNumeric : Ptr) : List Cell :=
  [.ptr (ps.getD 0 none), .ptr (ps.getD 1 none), .int authType, .ptr (ps.getD 2 none),
    .ptr (ps.getD 3 none), .ptr operatorNumeric, .int 0, .ptr none]

/-- `RIL_InitialAttachApn_v15` -/
def rilInitialAttachApnV15 (p : DataProfileInfo) (modemCognitive : Bool) (ps : List Ptr) :
    List Cell :=
  [.ptr (ps.getD 0 none), .ptr (ps.getD 1 none), .ptr (ps.getD 2 none), .int p.authType,
    .ptr (ps.getD 3 none), .ptr (ps.getD 4 none), .int p.supportedApnTypesBitmap,
    .int p.bearerBitmap, .int modemCognitive.toNat, .int p.mtu,
    .literal (AttachApn.convertMvnoTypeToString p.mvnoType), .ptr (ps.getD 5 none)]

def setInitialAttachApn (env : Env) (p : DataProfileInfo) (modemCognitive isRoaming : Bool) :
    Prepared :=
  if env.version ≤ 14 then
    let protocol := if isRoaming then p.roamingProtocol else p.protocol
    match copyFields env.malloc Mem.init
        [(p.apn, true), (protocol, false), (p.user, false), (p.password, false)] with
    | (ps, false, m) => gaveUp (memsetAndFreeStrings m ps)
    | (ps, true, m) =>
        let (ps, m) := fillEmpty m ps
        let operatorNumeric := some m.here
        let m := m.alloc (charCells (strncpy 8 env.operatorNumeric))
        let cells := rilInitialAttachApn p.authType ps operatorNumeric
        ⟨m.push cells,
          some ⟨RilRequest.setInitialAttachApn.code, some m.here, sizeof cells - sizeofPointer,
            .attchApn⟩, []⟩
  else
    sendRecord env .setInitialAttachApn [(p.apn, true), (p.protocol, false),
        (p.roamingProtocol, false), (p.user, false), (p.password, false),
        (p.mvnoMatchData, false)]
      (rilInitialAttachApnV15 p modemCognitive) .ignore

/-- What `sendInitialAttachApnAgain` sends itself, when no APN is remembered. -/
def sendInitialAttachApnAgain : Prepared :=
  let (ps, m) := fillEmpty Mem.init [none, none, none, none, none]
  let cells := rilInitialAttachApn 0 ps (ps.getD 4 none)
  ⟨m.push cells,
    some ⟨RilRequest.setInitialAttachApn.code, some m.here, sizeof cells - sizeofPointer,
      .ignore⟩, ps⟩

/-! ## Messages over IMS -/

structure GsmSmsMessage where
  smscPdu : Text
  pdu : Text
  deriving DecidableEq

structure ImsSmsMessage where
  tech : ℤ
  retry : Bool
  messageRef : ℤ
  cdmaMessage : List CdmaSmsMessage
  gsmMessage : List GsmSmsMessage
  deriving DecidableEq

def radioTech3gpp : ℤ := 1

def radioTech3gpp2 : ℤ := 2

def rilImsSmsMessage (tech : ℤ) (message : ImsSmsMessage) (p : Ptr) : List Cell :=
  [.int tech, .byte message.retry.toNat, .int message.messageRef, .ptr p]

/-- `sizeof(RIL_RadioTechnologyFamily) + sizeof(uint8_t) + sizeof(int32_t)` -/
def sizeofImsHeader : ℕ := 4 + 1 + 4

def dispatchImsGsmSms (env : Env) (message : ImsSmsMessage) : Prepared :=
  match message.gsmMessage with
  | [gsmMessage] =>
      let pStrings := Mem.init.here
      if env.malloc Mem.init.next then
        let m := Mem.init.alloc (List.replicate 2 (.ptr none))
        match copyFields env.malloc m [(gsmMessage.smscPdu, false), (gsmMessage.pdu, false)] with
        | (ps, false, m) => gaveUp ((memsetAndFreeStrings m ps).free pStrings)
        | (ps, true, m) =>
            let strings := ps.map Cell.ptr
            let m := m.write pStrings strings
            ⟨m.push (rilImsSmsMessage radioTech3gpp message (some pStrings)),
              some ⟨RilRequest.imsSendSms.code, some m.here, sizeofImsHeader + sizeof strings,
                .imsSms⟩, []⟩
      else gaveUp Mem.init
  | _ => gaveUp Mem.init

def dispatchImsCdmaSms (message : ImsSmsMessage) : Prepared :=
  match message.cdmaMessage with
  | [cdmaMessage] =>
      let rcsm := constructCdmaSms cdmaMessage
      let m := Mem.init.push rcsm
      ⟨m.push (rilImsSmsMessage radioTech3gpp2 message (some Mem.init.here)),
        some ⟨RilRequest.imsSendSms.code, some m.here, sizeofImsHeader + sizeof rcsm, .raw⟩, []⟩
  | _ => gaveUp Mem.init

def sendImsSms (env : Env) (message : ImsSmsMessage) : Prepared :=
  if message.tech = radioTech3gpp then dispatchImsGsmSms env message
  else if message.tech = radioTech3gpp2 then dispatchImsCdmaSms message
  else gaveUp Mem.init

/-! ## Data profiles -/

/-- The strings of each profile in turn, until one cannot be copied. -/
def copyProfiles (malloc : ℕ → Bool) (fields : DataProfileInfo → List Field) (m : Mem) :
    List DataProfileInfo → List (List Ptr) × Bool × Mem
  | [] => ([], true, m)
  | p :: profiles =>
      match copyFields malloc m (fields p) with
      | (row, true, m) =>
          let (rows, success, m) := copyProfiles malloc fields m profiles
          (row :: rows, success, m)
      | (row, false, m) =>
          (row :: profiles.map fun p => List.replicate (fields p).length none, false, m)

/-- The pointers that `freeSetDataProfileData` frees: string by string for all profiles, then
the two arrays. -/
def freeSetDataProfileData (numfields : ℕ) (rows : List (List Ptr))
    (dataProfiles dataProfilePtrs : Addr) : List Ptr :=
  ((List.range numfields).flatMap fun i => rows.map fun row => row.getD i none) ++
    [some dataProfiles, some dataProfilePtrs]

def rilDataProfileInfo (p : DataProfileInfo) (ps : List Ptr) : List Cell :=
  [.int p.profileId, .ptr (ps.getD 0 none), .ptr (ps.getD 1 none), .int p.authType,
    .ptr (ps.getD 2 none), .ptr (ps.getD 3 none), .int p.type, .int p.maxConnsTime,
    .int p.maxConns, .int p.waitTime, .int p.enabled.toNat]

/-- `RIL_DataProfileInfo_v15` -/
def rilDataProfileInfoV15 (p : DataProfileInfo) (ps : List Ptr) : List Cell :=
  [.int p.profileId, .ptr (ps.getD 0 none), .ptr (ps.getD 1 none), .ptr (ps.getD 2 none),
    .int p.authType, .ptr (ps.getD 3 none), .ptr (ps.getD 4 none), .int p.type,
    .int p.maxConnsTime, .int p.maxConns, .int p.waitTime, .int p.enabled.toNat,
    .int p.supportedApnTypesBitmap, .int p.bearerBitmap, .int p.mtu,
    .literal (AttachApn.convertMvnoTypeToString p.mvnoType), .ptr (ps.getD 5 none)]

/-- Both branches of `setDataProfile`: the array of the profiles, the array of pointers to them,
and the strings. -/
def sendProfiles (env : Env) (profiles : List DataProfileInfo) (width numfields : ℕ)
    (fields : DataProfileInfo → List Field) (record : DataProfileInfo → List Ptr → List Cell)
    (bf : BufFmts) : Prepared :=
  let num := profiles.length
  let dataProfiles := Mem.init.here
  if env.malloc Mem.init.next then
    let m := Mem.init.alloc (List.replicate (width * num) (.int 0))
    let dataProfilePtrs := m.here
    if env.malloc m.next then
      let m := m.alloc (List.replicate num (.ptr none))
      match copyProfiles env.malloc fields m profiles with
      | (rows, false, m) =>
          gaveUp (memsetAndFreeStrings m
            (freeSetDataProfileData numfields rows dataProfiles dataProfilePtrs))
      | (rows, true, m) =>
          let ptrs := pointersInto dataProfiles width num
          let m := m.write dataProfiles (List.zipWith record profiles rows).flatten
          let m := m.write dataProfilePtrs ptrs
          ⟨m, some ⟨RilRequest.setDataProfile.code, some dataProfilePtrs, sizeof ptrs, bf⟩,
            if bf = .ignore then
              freeSetDataProfileData numfields rows dataProfiles dataProfilePtrs
            else []⟩
    else gaveUp (m.free dataProfiles)
  else gaveUp Mem.init

def setDataProfile (env : Env) (profiles : List DataProfileInfo) (isRoaming : Bool) : Prepared :=
  if env.version ≤ 14 then
    sendProfiles env profiles 11 4
      (fun p => [(p.apn, true), (if isRoaming then p.roamingProtocol else p.protocol, true),
        (p.user, true), (p.password, true)])
      rilDataProfileInfo .dataProf
  else
    sendProfiles env profiles 17 6
      (fun p => [(p.apn, true), (p.protocol, false), (p.roamingProtocol, true), (p.user, true),
        (p.password, true), (p.mvnoMatchData, true)])
      rilDataProfileInfoV15 .ignore

/-! ## Carriers -/

structure Carrier where
  mcc : Text
  mnc : Text
  matchType : ℤ
  matchData : Text
  deriving DecidableEq

structure CarrierRestrictions where
  allowedCarriers : List Carrier
  excludedCarriers : List Carrier
  deriving DecidableEq

/-- Strings of the client, which are not copied. -/
def pushStrings (m : Mem) : List Text → List Ptr × Mem
  | [] => ([], m)
  | s :: ss =>
      let (ps, m') := pushStrings (m.push (charCells (s ++ [nul]))) ss
      (some m.here :: ps, m')

/-- An array of `RIL_Carrier` that refers to the client's strings. -/
def rilCarriers (m : Mem) : List Carrier → List Cell × Mem
  | [] => ([], m)
  | c :: cs =>
      let (ps, m) := pushStrings m [c.mcc, c.mnc, c.matchData]
      let (cells, m) := rilCarriers m cs
      ([.ptr (ps.getD 0 none), .ptr (ps.getD 1 none), .int c.matchType,
        .ptr (ps.getD 2 none)] ++ cells, m)

def setAllowedCarriers (env : Env) (carriers : CarrierRestrictions) : Prepared :=
  let allowedCarriers := Mem.init.here
  if env.malloc Mem.init.next then
    let m := Mem.init.alloc (List.replicate (4 * carriers.allowedCarriers.length) (.int 0))
    let excludedCarriers := m.here
    if env.malloc m.next then
      let m := m.alloc (List.replicate (4 * carriers.excludedCarriers.length) (.int 0))
      let (allowed, m) := rilCarriers m carriers.allowedCarriers
      let m := m.write allowedCarriers allowed
      let (excluded, m) := rilCarriers m carriers.excludedCarriers
      let m := m.write excludedCarriers excluded
      let cr := [.int carriers.allowedCarriers.length, .int carriers.excludedCarriers.length,
        .ptr (some allowedCarriers), .ptr (some excludedCarriers)]
      ⟨m.push cr,
        some ⟨RilRequest.setCarrierRestrictions.code, some m.here, sizeof cr, .ignore⟩,
        [some allowedCarriers, some excludedCarriers]⟩
    else gaveUp (m.free allowedCarriers)
  else gaveUp Mem.init

/-! ## All dispatchers -/

/-- A dispatcher with its arguments. -/
inductive Dispatcher where
  | dispatchVoid (r : RilRequest)
  | dispatchString (r : RilRequest) (str : Text)
  | dispatchStrings (r : RilRequest) (allowEmpty : Bool) (strs : List Text)
  | dispatchStringVec (r : RilRequest) (data : List Text)
  | dispatchInts (r : RilRequest) (ints : List ℤ)
  | dispatchRaw (r : RilRequest) (rawBytes : List ℕ)
  | dispatchCallForwardStatus (r : RilRequest) (callInfo : CallForwardInfo)
  | dispatchIccApdu (r : RilRequest) (message : SimApdu)
  | dial (dialInfo : Dial)
  | iccIOForApp (iccIo : IccIo)
  | writeSmsToSim (smsWriteArgs : SmsWriteArgs)
  | requestIccSimAuthentication (a : SimAuthentication)
  | nvReadItem (itemId : ℤ)
  | nvWriteItem (item : NvWriteItem)
  | setUiccSubscription (uiccSub : SelectUiccSub)
  | sendCdmaSms (sms : CdmaSmsMessage)
  | writeSmsToRuim (cdmaSms : CdmaSmsWriteArgs)
  | acknowledgeLastIncomingCdmaSms (smsAck : CdmaSmsAck)
  | setGsmBroadcastConfig (configInfo : List GsmBroadcastSmsConfigInfo)
  | setCdmaBroadcastConfig (configInfo : List CdmaBroadcastSmsConfigInfo)
  | setInitialAttachApn (p : DataProfileInfo) (modemCognitive isRoaming : Bool)
  | sendInitialAttachApnAgain
  | sendImsSms (message : ImsSmsMessage)
  | setDataProfile (profiles : List DataProfileInfo) (isRoaming : Bool)
  | setAllowedCarriers (carriers : CarrierRestrictions)
  deriving DecidableEq

/-- The request that it hands on. -/
def Dispatcher.request : Dispatcher → RilRequest
  | .dispatchVoid r => r
  | .dispatchString r _ => r
  | .dispatchStrings r _ _ => r
  | .dispatchStringVec r _ => r
  | .dispatchInts r _ => r
  | .dispatchRaw r _ => r
  | .dispatchCallForwardStatus r _ => r
  | .dispatchIccApdu r _ => r
  | .dial _ => .dial
  | .iccIOForApp _ => .simIo
  | .writeSmsToSim _ => .writeSmsToSim
  | .requestIccSimAuthentication _ => .simAuthentication
  | .nvReadItem _ => .nvReadItem
  | .nvWriteItem _ => .nvWriteItem
  | .setUiccSubscription _ => .setUiccSubscription
  | .sendCdmaSms _ => .cdmaSendSms
  | .writeSmsToRuim _ => .cdmaWriteSmsToRuim
  | .acknowledgeLastIncomingCdmaSms _ => .cdmaSmsAcknowledge
  | .setGsmBroadcastConfig _ => .gsmSetBroadcastSmsConfig
  | .setCdmaBroadcastConfig _ => .cdmaSetBroadcastSmsConfig
  | .setInitialAttachApn _ _ _ => .setInitialAttachApn
  | .sendInitialAttachApnAgain => .setInitialAttachApn
  | .sendImsSms _ => .imsSendSms
  | .setDataProfile _ _ => .setDataProfile
  | .setAllowedCarriers _ => .setCarrierRestrictions

def dispatch (env : Env) : Dispatcher → Prepared
  | .dispatchVoid r => dispatchVoid r
  | .dispatchString r str => dispatchString env r str
  | .dispatchStrings r allowEmpty strs => dispatchStrings env r allowEmpty strs
  | .dispatchStringVec r data => dispatchStringVec env r data
  | .dispatchInts r ints => dispatchInts env r ints
  | .dispatchRaw r rawBytes => dispatchRaw r rawBytes
  | .dispatchCallForwardStatus r callInfo => dispatchCallForwardStatus env r callInfo
  | .dispatchIccApdu r message => dispatchIccApdu env r message
  | .dial dialInfo => dial env dialInfo
  | .iccIOForApp iccIo => iccIOForApp env iccIo
  | .writeSmsToSim smsWriteArgs => writeSmsToSim env smsWriteArgs
  | .requestIccSimAuthentication a => requestIccSimAuthentication env a
  | .nvReadItem itemId => nvReadItem env itemId
  | .nvWriteItem item => nvWriteItem env item
  | .setUiccSubscription uiccSub => setUiccSubscription env uiccSub
  | .sendCdmaSms sms => sendCdmaSms env sms
  | .writeSmsToRuim cdmaSms => writeSmsToRuim env cdmaSms
  | .acknowledgeLastIncomingCdmaSms smsAck => acknowledgeLastIncomingCdmaSms env smsAck
  | .setGsmBroadcastConfig configInfo => setGsmBroadcastConfig configInfo
  | .setCdmaBroadcastConfig configInfo => setCdmaBroadcastConfig configInfo
  | .setInitialAttachApn p modemCognitive isRoaming =>
      setInitialAttachApn env p modemCognitive isRoaming
  | .sendInitialAttachApnAgain => sendInitialAttachApnAgain
  | .sendImsSms message => sendImsSms env message
  | .setDataProfile profiles isRoaming => setDataProfile env profiles isRoaming
  | .setAllowedCarriers carriers => setAllowedCarriers env carriers

end Radio.Payload
