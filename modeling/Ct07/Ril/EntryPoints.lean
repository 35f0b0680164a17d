/-
# The entry points that issue requests (`ril_service.cpp`)

Every place of `ril_service.cpp` that calls `addRequestToList`, directly or through
one of the dispatch helpers: the HIDL methods, the indication handlers that issue
a request of their own, and the timed callback that resends the attach APN.  Each
has its routes: the request it adds, whether the route can reach `my_enqueue`, and
the errors with which the route answers the client itself.

The `#ifdef` branches are those of this build (`MTK_HARDWARE`, IMEI in place of
`DEVICE_IDENTITY`).
-/
import Ct07.Ril.Commands

namespace Ril

/-! ## Routes -/

/-- The errors with which an entry point answers a request it does not forward. -/
inductive OwnError where
  | requestNotSupported | noMemory | invalidArguments
  deriving DecidableEq, Repr

/-- One way through an entry point, from `addRequestToList` on. -/
structure Route where
  request : RilRequest
  /-- The route can reach `my_enqueue`. -/
  forwards : Bool
  /-- The errors the route can hand to `sendErrorResponse`, instead of forwarding. -/
  ownErrors : List OwnError
  /-- The route tests `pRI` against `NULL` before it uses it. -/
  checksNull : Bool
  deriving DecidableEq, Repr

namespace Route

/-- A route that forwards, unless one of `errors` turns up on the way. -/
def forwarding (r : RilRequest) (errors : List OwnError) : Route := ⟨r, true, errors, true⟩

/-- A route that always answers with `e`. -/
def refusedWith (r : RilRequest) (e : OwnError) : Route := ⟨r, false, [e], true⟩

/-- A request that libril does not support. -/
def refused (r : RilRequest) : Route := refusedWith r .requestNotSupported

/-- As `refused`, without the test against `NULL`. -/
def refusedUnchecked (r : RilRequest) : Route :=
  { refused r with checksNull := false }

/-- The helpers without a payload to allocate. -/
def dispatchVoid (r : RilRequest) : Route := forwarding r []
def dispatchRaw (r : RilRequest) : Route := forwarding r []

/-- The helpers that copy their payload, and answer when there is no memory for it. -/
def dispatchString (r : RilRequest) : Route := forwarding r [.noMemory]
def dispatchStrings (r : RilRequest) : Route := forwarding r [.noMemory]
def dispatchInts (r : RilRequest) : Route := forwarding r [.noMemory]
def dispatchCallForwardStatus (r : RilRequest) : Route := forwarding r [.noMemory]
def dispatchIccApdu (r : RilRequest) : Route := forwarding r [.noMemory]

end Route

/-! ## Entry points -/

/-- The functions of `ril_service.cpp` that add a request to the pending list. -/
inductive EntryPoint where
  | getIccCardStatus | supplyIccPinForApp | supplyIccPukForApp | supplyIccPin2ForApp
  | supplyIccPuk2ForApp | changeIccPinForApp | changeIccPin2ForApp
  | supplyNetworkDepersonalization | getCurrentCalls | dial | getImsiForApp | hangup
  | hangupWaitingOrBackground | hangupForegroundResumeBackground | switchWaitingOrHoldingAndActive
  | conference | rejectCall | getLastCallFailCause | getSignalStrength | getVoiceRegistrationState
  | getDataRegistrationState | getOperator | setRadioPower | sendDtmf | sendSms
  | sendSMSExpectMore | setupDataCall | iccIOForApp | sendUssd | cancelPendingUssd | getClir
  | setClir | getCallForwardStatus | setCallForward | getCallWaiting | setCallWaiting
  | acknowledgeLastIncomingGsmSms | acceptCall | deactivateDataCall | getFacilityLockForApp
  | setFacilityLockForApp | setBarringPassword | getNetworkSelectionMode
  | setNetworkSelectionModeAutomatic | setNetworkSelectionModeManual | getAvailableNetworks
  | stopNetworkScan | startDtmf | stopDtmf | getBasebandVersion | separateConnection | setMute
  | getMute | getClip | getDataCallList | setSuppServiceNotifications | writeSmsToSim
  | deleteSmsOnSim | setBandMode | getAvailableBandModes | sendEnvelope
  | sendTerminalResponseToSim | handleStkCallSetupRequestFromSim | explicitCallTransfer
  | setPreferredNetworkType | getPreferredNetworkType | getNeighboringCids | setLocationUpdates
  | setCdmaSubscriptionSource | setCdmaRoamingPreference | getCdmaRoamingPreference | setTTYMode
  | getTTYMode | setPreferredVoicePrivacy | getPreferredVoicePrivacy | sendCDMAFeatureCode
  | sendBurstDtmf | sendCdmaSms | acknowledgeLastIncomingCdmaSms | getGsmBroadcastConfig
  | setGsmBroadcastConfig | setGsmBroadcastActivation | getCdmaBroadcastConfig
  | setCdmaBroadcastConfig | setCdmaBroadcastActivation | getCDMASubscription | writeSmsToRuim
  | deleteSmsOnRuim | getDeviceIdentity | exitEmergencyCallbackMode | getSmscAddress
  | setSmscAddress | reportSmsMemoryStatus | reportStkServiceIsRunning | getCdmaSubscriptionSource
  | requestIsimAuthentication | acknowledgeIncomingGsmSmsWithPdu | sendEnvelopeWithStatus
  | getVoiceRadioTechnology | getCellInfoList | setCellInfoListRate | setInitialAttachApn
  | getImsRegistrationState | sendImsSms | iccTransmitApduBasicChannel | iccOpenLogicalChannel
  | iccCloseLogicalChannel | iccTransmitApduLogicalChannel | nvReadItem | nvWriteItem
  | nvWriteCdmaPrl | nvResetConfig | setUiccSubscription | setDataAllowed | getHardwareConfig
  | requestIccSimAuthentication | setDataProfile | requestShutdown | getRadioCapability
  | setRadioCapability | startLceService | stopLceService | pullLceData | getModemActivityInfo
  | setAllowedCarriers | getAllowedCarriers | sendDeviceState | setIndicationFilter
  | setSimCardPower | sendRequestRaw | sendRequestStrings | registrationSuspendInd
  | incomingCallInd | mtkEcpiInd | callInfoInd | sendInitialAttachApnAgain
  deriving DecidableEq, Repr

open Route in
/-- The routes of each entry point, in the order of the source. -/
def EntryPoint.routes : EntryPoint → List Route
  | .getIccCardStatus => [dispatchVoid .getSimStatus]
  | .supplyIccPinForApp => [dispatchStrings .enterSimPin]
  | .supplyIccPukForApp => [dispatchStrings .enterSimPuk]
  | .supplyIccPin2ForApp => [dispatchStrings .enterSimPin2]
  | .supplyIccPuk2ForApp => [dispatchStrings .enterSimPuk2]
  | .changeIccPinForApp => [dispatchStrings .changeSimPin]
  | .changeIccPin2ForApp => [dispatchStrings .changeSimPin2]
  | .supplyNetworkDepersonalization => [dispatchStrings .enterNetworkDepersonalization]
  | .getCurrentCalls => [dispatchVoid .getCurrentCalls]
  | .dial => [forwarding .dial [.noMemory]]
  | .getImsiForApp => [dispatchStrings .getImsi]
  | .hangup => [dispatchInts .hangup]
  | .hangupWaitingOrBackground => [dispatchVoid .hangupWaitingOrBackground]
  | .hangupForegroundResumeBackground => [dispatchVoid .hangupForegroundResumeBackground]
  | .switchWaitingOrHoldingAndActive => [dispatchVoid .switchWaitingOrHoldingAndActive]
  | .conference => [dispatchVoid .conference]
  | .rejectCall => [dispatchVoid .udub]
  | .getLastCallFailCause => [dispatchVoid .lastCallFailCause]
  | .getSignalStrength => [refused .signalStrength]
  | .getVoiceRegistrationState => [dispatchVoid .voiceRegistrationState]
  | .getDataRegistrationState => [dispatchVoid .dataRegistrationState]
  | .getOperator => [dispatchVoid .operator]
  | .setRadioPower => [dispatchInts .radioPower]
  | .sendDtmf => [dispatchString .dtmf]
  | .sendSms => [dispatchStrings .sendSms]
  | .sendSMSExpectMore => [dispatchStrings .sendSmsExpectMore]
  | .setupDataCall =>
    [dispatchStrings .setupDataCall,
     refusedWith .setupDataCall .invalidArguments,
     refused .setupDataCall]
  | .iccIOForApp => [forwarding .simIo [.noMemory]]
  | .sendUssd => [dispatchString .sendUssd]
  | .cancelPendingUssd => [dispatchVoid .cancelUssd]
  | .getClir => [dispatchVoid .getClir]
  | .setClir => [dispatchInts .setClir]
  | .getCallForwardStatus => [dispatchCallForwardStatus .queryCallForwardStatus]
  | .setCallForward => [dispatchCallForwardStatus .setCallForward]
  | .getCallWaiting => [dispatchInts .queryCallWaiting]
  | .setCallWaiting => [dispatchInts .setCallWaiting]
  | .acknowledgeLastIncomingGsmSms => [dispatchInts .smsAcknowledge]
  | .acceptCall => [dispatchVoid .answer]
  | .deactivateDataCall => [dispatchStrings .deactivateDataCall]
  | .getFacilityLockForApp => [dispatchStrings .queryFacilityLock]
  | .setFacilityLockForApp => [dispatchStrings .setFacilityLock]
  | .setBarringPassword => [dispatchStrings .changeBarringPassword]
  | .getNetworkSelectionMode => [dispatchVoid .queryNetworkSelectionMode]
  | .setNetworkSelectionModeAutomatic => [dispatchVoid .setNetworkSelectionAutomatic]
  | .setNetworkSelectionModeManual => [dispatchString .setNetworkSelectionManual]
  | .getAvailableNetworks => [dispatchVoid .queryAvailableNetworks]
  | .stopNetworkScan => [dispatchVoid .stopNetworkScan]
  | .startDtmf => [dispatchString .dtmfStart]
  | .stopDtmf => [dispatchVoid .dtmfStop]
  | .getBasebandVersion => [dispatchVoid .basebandVersion]
  | .separateConnection => [dispatchInts .separateConnection]
  | .setMute => [dispatchInts .setMute]
  | .getMute => [dispatchVoid .getMute]
  | .getClip => [dispatchVoid .queryClip]
  | .getDataCallList => [dispatchVoid .dataCallList]
  | .setSuppServiceNotifications => [dispatchInts .setSuppSvcNotification]
  | .writeSmsToSim => [forwarding .writeSmsToSim [.noMemory]]
  | .deleteSmsOnSim => [dispatchInts .deleteSmsOnSim]
  | .setBandMode => [dispatchInts .setBandMode]
  | .getAvailableBandModes => [dispatchVoid .queryAvailableBandMode]
  | .sendEnvelope => [dispatchString .stkSendEnvelopeCommand]
  | .sendTerminalResponseToSim => [dispatchString .stkSendTerminalResponse]
  | .handleStkCallSetupRequestFromSim => [dispatchInts .stkHandleCallSetupRequestedFromSim]
  | .explicitCallTransfer => [dispatchVoid .explicitCallTransfer]
  | .setPreferredNetworkType => [dispatchInts .setPreferredNetworkType]
  | .getPreferredNetworkType => [dispatchVoid .getPreferredNetworkType]
  | .getNeighboringCids => [dispatchVoid .getNeighboringCellIds]
  | .setLocationUpdates => [dispatchInts .setLocationUpdates]
  | .setCdmaSubscriptionSource => [dispatchInts .cdmaSetSubscriptionSource]
  | .setCdmaRoamingPreference => [dispatchInts .cdmaSetRoamingPreference]
  | .getCdmaRoamingPreference => [dispatchVoid .cdmaQueryRoamingPreference]
  | .setTTYMode => [dispatchInts .setTtyMode]
  | .getTTYMode => [refused .queryTtyMode]
  | .setPreferredVoicePrivacy => [dispatchInts .cdmaSetPreferredVoicePrivacyMode]
  | .getPreferredVoicePrivacy => [dispatchVoid .cdmaQueryPreferredVoicePrivacyMode]
  | .sendCDMAFeatureCode => [dispatchString .cdmaFlash]
  | .sendBurstDtmf => [dispatchStrings .cdmaBurstDtmf]
  | .sendCdmaSms => [forwarding .cdmaSendSms []]
  | .acknowledgeLastIncomingCdmaSms => [forwarding .cdmaSmsAcknowledge []]
  | .getGsmBroadcastConfig => [dispatchVoid .gsmGetBroadcastSmsConfig]
  | .setGsmBroadcastConfig => [forwarding .gsmSetBroadcastSmsConfig []]
  | .setGsmBroadcastActivation => [dispatchInts .gsmSmsBroadcastActivation]
  | .getCdmaBroadcastConfig => [dispatchVoid .cdmaGetBroadcastSmsConfig]
  | .setCdmaBroadcastConfig => [forwarding .cdmaSetBroadcastSmsConfig []]
  | .setCdmaBroadcastActivation => [dispatchInts .cdmaSmsBroadcastActivation]
  | .getCDMASubscription => [dispatchVoid .cdmaSubscription]
  | .writeSmsToRuim => [forwarding .cdmaWriteSmsToRuim []]
  | .deleteSmsOnRuim => [dispatchInts .cdmaDeleteSmsOnRuim]
  | .getDeviceIdentity => [dispatchVoid .getImei]
  | .exitEmergencyCallbackMode => [dispatchVoid .exitEmergencyCallbackMode]
  | .getSmscAddress => [dispatchVoid .getSmscAddress]
  | .setSmscAddress => [dispatchString .setSmscAddress]
  | .reportSmsMemoryStatus => [dispatchInts .reportSmsMemoryStatus]
  | .reportStkServiceIsRunning => [dispatchVoid .reportStkServiceIsRunning]
  | .getCdmaSubscriptionSource => [refused .cdmaGetSubscriptionSource]
  | .requestIsimAuthentication => [dispatchString .isimAuthentication]
  | .acknowledgeIncomingGsmSmsWithPdu => [dispatchStrings .acknowledgeIncomingGsmSmsWithPdu]
  | .sendEnvelopeWithStatus => [dispatchString .stkSendEnvelopeWithStatus]
  | .getVoiceRadioTechnology => [dispatchVoid .voiceRadioTech]
  | .getCellInfoList => [dispatchVoid .getCellInfoList]
  | .setCellInfoListRate => [dispatchInts .setUnsolCellInfoListRate]
  | .setInitialAttachApn => [forwarding .setInitialAttachApn [.noMemory, .invalidArguments]]
  | .getImsRegistrationState => [dispatchVoid .imsRegistrationState]
  | .sendImsSms => [forwarding .imsSendSms [.noMemory, .invalidArguments]]
  | .iccTransmitApduBasicChannel => [dispatchIccApdu .simTransmitApduBasic]
  | .iccOpenLogicalChannel => [refused .simOpenChannel]
  | .iccCloseLogicalChannel => [dispatchInts .simCloseChannel]
  | .iccTransmitApduLogicalChannel => [dispatchIccApdu .simTransmitApduChannel]
  | .nvReadItem => [forwarding .nvReadItem []]
  | .nvWriteItem => [forwarding .nvWriteItem [.noMemory]]
  | .nvWriteCdmaPrl => [dispatchRaw .nvWriteCdmaPrl]
  | .nvResetConfig => [dispatchInts .nvResetConfig]
  | .setUiccSubscription => [forwarding .setUiccSubscription []]
  | .setDataAllowed => [dispatchInts .allowData]
  | .getHardwareConfig => [refused .getHardwareConfig]
  | .requestIccSimAuthentication => [forwarding .simAuthentication [.noMemory]]
  | .setDataProfile => [forwarding .setDataProfile [.noMemory, .invalidArguments]]
  | .requestShutdown => [dispatchVoid .shutdown]
  | .getRadioCapability => [refused .getRadioCapability]
  | .setRadioCapability => [refused .setRadioCapability]
  | .startLceService => [refused .startLce]
  | .stopLceService => [dispatchVoid .stopLce]
  | .pullLceData => [dispatchVoid .pullLcedata]
  | .getModemActivityInfo => [dispatchVoid .getActivityInfo]
  | .setAllowedCarriers => [forwarding .setCarrierRestrictions [.noMemory]]
  | .getAllowedCarriers => [dispatchVoid .getCarrierRestrictions]
  | .sendDeviceState =>
    [dispatchInts .screenState, refusedUnchecked .sendDeviceState, dispatchInts .sendDeviceState]
  | .setIndicationFilter =>
    [refusedUnchecked .setUnsolicitedResponseFilter, dispatchInts .setUnsolicitedResponseFilter]
  | .setSimCardPower => [dispatchVoid .modemPoweron, dispatchVoid .modemPoweroff]
  | .sendRequestRaw => [dispatchRaw .oemHookRaw]
  | .sendRequestStrings => [dispatchStrings .oemHookStrings]
  | .registrationSuspendInd => [dispatchInts .resumeRegistration]
  | .incomingCallInd => [dispatchInts .setCallIndication]
  | .mtkEcpiInd => [dispatchInts .setCallIndication]
  | .callInfoInd => [dispatchInts .setCallIndication]
  | .sendInitialAttachApnAgain =>
    [forwarding .setInitialAttachApn [.noMemory, .invalidArguments],
     forwarding .setInitialAttachApn []]

/-- The requests that an entry point passes to `addRequestToList`. -/
def EntryPoint.requests (e : EntryPoint) : List RilRequest := e.routes.map Route.request

end Ril
