/-
# The command table of libril (`ril_commands.h`, `ril_internal.h`)

What libril knows of a request code: the `RilRequest` codes, the channel
numbering of the vendor RIL, and `sCommands`, the table `s_commands[]` of
`ril.cpp` as this build compiles it.  The vendor part of the table
(`mtk_ril_commands.h`) is commented out of `s_commands[]`, and so it is not here.

The numeric values come from `telephony/ril.h`, which is not part of the tree:
AOSP codes are numbered in the order of the table (its header comment says
`Index == requestNumber`, and the self-check at registration asserts it), and the
vendor codes in the order of `mtk_ril_commands.h` from `RIL_REQUEST_VENDOR_BASE`.
-/
import Mathlib.Data.Nat.Notation

namespace Ril

/-! ## Channels -/

/-- `RILChannelId`: six AT channels for each SIM. -/
abbrev RILChannelId := ℕ

/-- The channels of the first SIM in the order of the vendor RIL: URC, CMD_1..4, ATCI. -/
def rilUrc : RILChannelId := 0
def rilCmd1 : RILChannelId := 1
def rilCmd2 : RILChannelId := 2
def rilCmd3 : RILChannelId := 3
def rilCmd4 : RILChannelId := 4
def rilAtci : RILChannelId := 5

/-- The channel of each proxy, as `proxyString` pairs them. -/
def rilCmdProxy1 : RILChannelId := rilCmd3
def rilCmdProxy2 : RILChannelId := rilCmd2
def rilCmdProxy3 : RILChannelId := rilCmd1
def rilCmdProxy4 : RILChannelId := rilUrc
def rilCmdProxy5 : RILChannelId := rilCmd4
def rilCmdProxy6 : RILChannelId := rilAtci

/-- `RIL_CHANNEL_OFFSET`: from a channel of the first SIM to the second SIM's. -/
def rilChannelOffset : ℕ := 6

/-! ## Request codes -/

/-- The request codes that the table or an entry point of the service names. -/
inductive RilRequest where
  | none | getSimStatus | enterSimPin | enterSimPuk | enterSimPin2 | enterSimPuk2
  | changeSimPin | changeSimPin2 | enterNetworkDepersonalization | getCurrentCalls | dial
  | getImsi | hangup | hangupWaitingOrBackground | hangupForegroundResumeBackground
  | switchWaitingOrHoldingAndActive | conference | udub | lastCallFailCause | signalStrength
  | voiceRegistrationState | dataRegistrationState | operator | radioPower | dtmf | sendSms
  | sendSmsExpectMore | setupDataCall | simIo | sendUssd | cancelUssd | getClir | setClir
  | queryCallForwardStatus | setCallForward | queryCallWaiting | setCallWaiting
  | smsAcknowledge | getImei | getImeisv | answer | deactivateDataCall | queryFacilityLock
  | setFacilityLock | changeBarringPassword | queryNetworkSelectionMode
  | setNetworkSelectionAutomatic | setNetworkSelectionManual | queryAvailableNetworks
  | dtmfStart | dtmfStop | basebandVersion | separateConnection | setMute | getMute | queryClip
  | lastDataCallFailCause | dataCallList | resetRadio | oemHookRaw | oemHookStrings
  | screenState | setSuppSvcNotification | writeSmsToSim | deleteSmsOnSim | setBandMode
  | queryAvailableBandMode | stkGetProfile | stkSetProfile | stkSendEnvelopeCommand
  | stkSendTerminalResponse | stkHandleCallSetupRequestedFromSim | explicitCallTransfer
  | setPreferredNetworkType | getPreferredNetworkType | getNeighboringCellIds
  | setLocationUpdates | cdmaSetSubscriptionSource | cdmaSetRoamingPreference
  | cdmaQueryRoamingPreference | setTtyMode | queryTtyMode | cdmaSetPreferredVoicePrivacyMode
  | cdmaQueryPreferredVoicePrivacyMode | cdmaFlash | cdmaBurstDtmf | cdmaValidateAndWriteAkey
  | cdmaSendSms | cdmaSmsAcknowledge | gsmGetBroadcastSmsConfig | gsmSetBroadcastSmsConfig
  | gsmSmsBroadcastActivation | cdmaGetBroadcastSmsConfig | cdmaSetBroadcastSmsConfig
  | cdmaSmsBroadcastActivation | cdmaSubscription | cdmaWriteSmsToRuim | cdmaDeleteSmsOnRuim
  | deviceIdentity | exitEmergencyCallbackMode | getSmscAddress | setSmscAddress
  | reportSmsMemoryStatus | reportStkServiceIsRunning | cdmaGetSubscriptionSource
  | isimAuthentication | acknowledgeIncomingGsmSmsWithPdu | stkSendEnvelopeWithStatus
  | voiceRadioTech | getCellInfoList | setUnsolCellInfoListRate | setInitialAttachApn
  | imsRegistrationState | imsSendSms | simTransmitApduBasic | simOpenChannel | simCloseChannel
  | simTransmitApduChannel | nvReadItem | nvWriteItem | nvWriteCdmaPrl | nvResetConfig
  | setUiccSubscription | allowData | getHardwareConfig | simAuthentication | getDcRtInfo
  | setDcRtInfoRate | setDataProfile | shutdown | getRadioCapability | setRadioCapability
  | startLce | stopLce | pullLcedata | getActivityInfo | setCarrierRestrictions
  | getCarrierRestrictions | sendDeviceState | setUnsolicitedResponseFilter | setSimCardPower
  | setCarrierInfoImsiEncryption | startNetworkScan | stopNetworkScan
  | modemPoweroff | modemPoweron | resumeRegistration | setCallIndication
  deriving DecidableEq, Repr

/-- `RIL_REQUEST_VENDOR_BASE`. -/
def rilRequestVendorBase : ℕ := 2000

/-- The number of a request code. -/
def RilRequest.code : RilRequest → ℕ
  | .modemPoweroff => rilRequestVendorBase + 10
  | .modemPoweron => rilRequestVendorBase + 28
  | .resumeRegistration => rilRequestVendorBase + 65
  | .setCallIndication => rilRequestVendorBase + 86
  | r => r.ctorIdx

/-! ## The table -/

/-- The response functions of `ril_service.cpp` that the table names. -/
inductive ResponseFunction where
  | getIccCardStatusResponse | supplyIccPinForAppResponse | supplyIccPukForAppResponse
  | supplyIccPin2ForAppResponse | supplyIccPuk2ForAppResponse | changeIccPinForAppResponse
  | changeIccPin2ForAppResponse | supplyNetworkDepersonalizationResponse
  | getCurrentCallsResponse | dialResponse | getIMSIForAppResponse | hangupConnectionResponse
  | hangupWaitingOrBackgroundResponse | hangupForegroundResumeBackgroundResponse
  | switchWaitingOrHoldingAndActiveResponse | conferenceResponse | rejectCallResponse
  | getLastCallFailCauseResponse | getSignalStrengthResponse
  | getVoiceRegistrationStateResponse | getDataRegistrationStateResponse | getOperatorResponse
  | setRadioPowerResponse | sendDtmfResponse | sendSmsResponse | sendSMSExpectMoreResponse
  | setupDataCallResponse | iccIOForAppResponse | sendUssdResponse | cancelPendingUssdResponse
  | getClirResponse | setClirResponse | getCallForwardStatusResponse | setCallForwardResponse
  | getCallWaitingResponse | setCallWaitingResponse | acknowledgeLastIncomingGsmSmsResponse
  | getImeiAsDeviceIdentityResponse | acceptCallResponse | deactivateDataCallResponse
  | getFacilityLockForAppResponse | setFacilityLockForAppResponse | setBarringPasswordResponse
  | getNetworkSelectionModeResponse | setNetworkSelectionModeAutomaticResponse
  | setNetworkSelectionModeManualResponse | getAvailableNetworksResponse | startDtmfResponse
  | stopDtmfResponse | getBasebandVersionResponse | separateConnectionResponse
  | setMuteResponse | getMuteResponse | getClipResponse | getDataCallListResponse
  | sendRequestRawResponse | sendRequestStringsResponse | sendDeviceStateResponse
  | setSuppServiceNotificationsResponse | writeSmsToSimResponse | deleteSmsOnSimResponse
  | setBandModeResponse | getAvailableBandModesResponse | sendEnvelopeResponse
  | sendTerminalResponseToSimResponse | handleStkCallSetupRequestFromSimResponse
  | explicitCallTransferResponse | setPreferredNetworkTypeResponse
  | getPreferredNetworkTypeResponse | getNeighboringCidsResponse | setLocationUpdatesResponse
  | setCdmaSubscriptionSourceResponse | setCdmaRoamingPreferenceResponse
  | getCdmaRoamingPreferenceResponse | setTTYModeResponse | getTTYModeResponse
  | setPreferredVoicePrivacyResponse | getPreferredVoicePrivacyResponse
  | sendCDMAFeatureCodeResponse | sendBurstDtmfResponse | sendCdmaSmsResponse
  | acknowledgeLastIncomingCdmaSmsResponse | getGsmBroadcastConfigResponse
  | setGsmBroadcastConfigResponse | setGsmBroadcastActivationResponse
  | getCdmaBroadcastConfigResponse | setCdmaBroadcastConfigResponse
  | setCdmaBroadcastActivationResponse | getCDMASubscriptionResponse | writeSmsToRuimResponse
  | deleteSmsOnRuimResponse | getDeviceIdentityResponse | exitEmergencyCallbackModeResponse
  | getSmscAddressResponse | setSmscAddressResponse | reportSmsMemoryStatusResponse
  | reportStkServiceIsRunningResponse | getCdmaSubscriptionSourceResponse
  | requestIsimAuthenticationResponse | acknowledgeIncomingGsmSmsWithPduResponse
  | sendEnvelopeWithStatusResponse | getVoiceRadioTechnologyResponse | getCellInfoListResponse
  | setCellInfoListRateResponse | setInitialAttachApnResponse | getImsRegistrationStateResponse
  | sendImsSmsResponse | iccTransmitApduBasicChannelResponse | iccOpenLogicalChannelResponse
  | iccCloseLogicalChannelResponse | iccTransmitApduLogicalChannelResponse | nvReadItemResponse
  | nvWriteItemResponse | nvWriteCdmaPrlResponse | nvResetConfigResponse
  | setUiccSubscriptionResponse | setDataAllowedResponse | getHardwareConfigResponse
  | requestIccSimAuthenticationResponse | setDataProfileResponse | requestShutdownResponse
  | getRadioCapabilityResponse | setRadioCapabilityResponse | startLceServiceResponse
  | stopLceServiceResponse | pullLceDataResponse | getModemActivityInfoResponse
  | setAllowedCarriersResponse | getAllowedCarriersResponse | setIndicationFilterResponse
  | setSimCardPowerResponse
  deriving DecidableEq, Repr

/-- `CommandInfo`: a row of the table. -/
structure CommandInfo where
  requestNumber : ℕ
  responseFunction : Option ResponseFunction
  proxyId : RILChannelId
  deriving DecidableEq, Repr

/-- A row for a request code of the table. -/
def RilRequest.row (r : RilRequest) (f : Option ResponseFunction) (p : RILChannelId) :
    CommandInfo := ⟨r.code, f, p⟩

open RilRequest in
/-- `s_commands[]`, with the `#ifdef` branches of this build. -/
def sCommands : List CommandInfo := [
  RilRequest.none.row none rilCmdProxy3,
  getSimStatus.row (some .getIccCardStatusResponse) rilCmdProxy1,
  enterSimPin.row (some .supplyIccPinForAppResponse) rilCmdProxy1,
  enterSimPuk.row (some .supplyIccPukForAppResponse) rilCmdProxy1,
  enterSimPin2.row (some .supplyIccPin2ForAppResponse) rilCmdProxy1,
  enterSimPuk2.row (some .supplyIccPuk2ForAppResponse) rilCmdProxy1,
  changeSimPin.row (some .changeIccPinForAppResponse) rilCmdProxy1,
  changeSimPin2.row (some .changeIccPin2ForAppResponse) rilCmdProxy1,
  enterNetworkDepersonalization.row (some .supplyNetworkDepersonalizationResponse) rilCmdProxy1,
  getCurrentCalls.row (some .getCurrentCallsResponse) rilCmdProxy2,
  dial.row (some .dialResponse) rilCmdProxy2,
  getImsi.row (some .getIMSIForAppResponse) rilCmdProxy1,
  hangup.row (some .hangupConnectionResponse) rilCmdProxy4,
  hangupWaitingOrBackground.row (some .hangupWaitingOrBackgroundResponse) rilCmdProxy4,
  hangupForegroundResumeBackground.row
    (some .hangupForegroundResumeBackgroundResponse) rilCmdProxy4,
  switchWaitingOrHoldingAndActive.row (some .switchWaitingOrHoldingAndActiveResponse) rilCmdProxy4,
  conference.row (some .conferenceResponse) rilCmdProxy4,
  udub.row (some .rejectCallResponse) rilCmdProxy2,
  lastCallFailCause.row (some .getLastCallFailCauseResponse) rilCmdProxy2,
  signalStrength.row (some .getSignalStrengthResponse) rilCmdProxy3,
  voiceRegistrationState.row (some .getVoiceRegistrationStateResponse) rilCmdProxy3,
  dataRegistrationState.row (some .getDataRegistrationStateResponse) rilCmdProxy3,
  operator.row (some .getOperatorResponse) rilCmdProxy3,
  radioPower.row (some .setRadioPowerResponse) rilCmdProxy1,
  dtmf.row (some .sendDtmfResponse) rilCmdProxy2,
  sendSms.row (some .sendSmsResponse) rilCmdProxy1,
  sendSmsExpectMore.row (some .sendSMSExpectMoreResponse) rilCmdProxy1,
  setupDataCall.row (some .setupDataCallResponse) rilCmdProxy5,
  simIo.row (some .iccIOForAppResponse) rilCmdProxy1,
  sendUssd.row (some .sendUssdResponse) rilCmdProxy2,
  cancelUssd.row (some .cancelPendingUssdResponse) rilCmdProxy2,
  getClir.row (some .getClirResponse) rilCmdProxy2,
  setClir.row (some .setClirResponse) rilCmdProxy2,
  queryCallForwardStatus.row (some .getCallForwardStatusResponse) rilCmdProxy1,
  setCallForward.row (some .setCallForwardResponse) rilCmdProxy2,
  queryCallWaiting.row (some .getCallWaitingResponse) rilCmdProxy1,
  setCallWaiting.row (some .setCallWaitingResponse) rilCmdProxy2,
  smsAcknowledge.row (some .acknowledgeLastIncomingGsmSmsResponse) rilCmdProxy2,
  getImei.row (some .getImeiAsDeviceIdentityResponse) rilCmdProxy3,
  getImeisv.row none rilCmdProxy3,
  answer.row (some .acceptCallResponse) rilCmdProxy2,
  deactivateDataCall.row (some .deactivateDataCallResponse) rilCmdProxy5,
  queryFacilityLock.row (some .getFacilityLockForAppResponse) rilCmdProxy1,
  setFacilityLock.row (some .setFacilityLockForAppResponse) rilCmdProxy1,
  changeBarringPassword.row (some .setBarringPasswordResponse) rilCmdProxy2,
  queryNetworkSelectionMode.row (some .getNetworkSelectionModeResponse) rilCmdProxy3,
  setNetworkSelectionAutomatic.row (some .setNetworkSelectionModeAutomaticResponse) rilCmdProxy3,
  setNetworkSelectionManual.row (some .setNetworkSelectionModeManualResponse) rilCmdProxy3,
  queryAvailableNetworks.row (some .getAvailableNetworksResponse) rilCmdProxy3,
  dtmfStart.row (some .startDtmfResponse) rilCmdProxy2,
  dtmfStop.row (some .stopDtmfResponse) rilCmdProxy2,
  basebandVersion.row (some .getBasebandVersionResponse) rilCmdProxy3,
  separateConnection.row (some .separateConnectionResponse) rilCmdProxy4,
  setMute.row (some .setMuteResponse) rilCmdProxy2,
  getMute.row (some .getMuteResponse) rilCmdProxy2,
  queryClip.row (some .getClipResponse) rilCmdProxy2,
  lastDataCallFailCause.row none rilCmdProxy5,
  dataCallList.row (some .getDataCallListResponse) rilCmdProxy5,
  resetRadio.row none rilCmdProxy1,
  oemHookRaw.row (some .sendRequestRawResponse) rilCmdProxy6,
  oemHookStrings.row (some .sendRequestStringsResponse) rilCmdProxy3,
  screenState.row (some .sendDeviceStateResponse) rilCmdProxy3,
  setSuppSvcNotification.row (some .setSuppServiceNotificationsResponse) rilCmdProxy2,
  writeSmsToSim.row (some .writeSmsToSimResponse) rilCmdProxy1,
  deleteSmsOnSim.row (some .deleteSmsOnSimResponse) rilCmdProxy1,
  setBandMode.row (some .setBandModeResponse) rilCmdProxy3,
  queryAvailableBandMode.row (some .getAvailableBandModesResponse) rilCmdProxy3,
  stkGetProfile.row none rilCmdProxy1,
  stkSetProfile.row none rilCmdProxy1,
  stkSendEnvelopeCommand.row (some .sendEnvelopeResponse) rilCmdProxy1,
  stkSendTerminalResponse.row (some .sendTerminalResponseToSimResponse) rilCmdProxy1,
  stkHandleCallSetupRequestedFromSim.row
    (some .handleStkCallSetupRequestFromSimResponse) rilCmdProxy1,
  explicitCallTransfer.row (some .explicitCallTransferResponse) rilCmdProxy2,
  setPreferredNetworkType.row (some .setPreferredNetworkTypeResponse) rilCmdProxy1,
  getPreferredNetworkType.row (some .getPreferredNetworkTypeResponse) rilCmdProxy1,
  getNeighboringCellIds.row (some .getNeighboringCidsResponse) rilCmdProxy4,
  setLocationUpdates.row (some .setLocationUpdatesResponse) rilCmdProxy3,
  cdmaSetSubscriptionSource.row (some .setCdmaSubscriptionSourceResponse) rilCmdProxy3,
  cdmaSetRoamingPreference.row (some .setCdmaRoamingPreferenceResponse) rilCmdProxy3,
  cdmaQueryRoamingPreference.row (some .getCdmaRoamingPreferenceResponse) rilCmdProxy3,
  setTtyMode.row (some .setTTYModeResponse) rilCmdProxy3,
  queryTtyMode.row (some .getTTYModeResponse) rilCmdProxy3,
  cdmaSetPreferredVoicePrivacyMode.row (some .setPreferredVoicePrivacyResponse) rilCmdProxy2,
  cdmaQueryPreferredVoicePrivacyMode.row (some .getPreferredVoicePrivacyResponse) rilCmdProxy2,
  cdmaFlash.row (some .sendCDMAFeatureCodeResponse) rilCmdProxy2,
  cdmaBurstDtmf.row (some .sendBurstDtmfResponse) rilCmdProxy2,
  cdmaValidateAndWriteAkey.row none rilCmdProxy2,
  cdmaSendSms.row (some .sendCdmaSmsResponse) rilCmdProxy1,
  cdmaSmsAcknowledge.row (some .acknowledgeLastIncomingCdmaSmsResponse) rilCmdProxy1,
  gsmGetBroadcastSmsConfig.row (some .getGsmBroadcastConfigResponse) rilCmdProxy2,
  gsmSetBroadcastSmsConfig.row (some .setGsmBroadcastConfigResponse) rilCmdProxy1,
  gsmSmsBroadcastActivation.row (some .setGsmBroadcastActivationResponse) rilCmdProxy1,
  cdmaGetBroadcastSmsConfig.row (some .getCdmaBroadcastConfigResponse) rilCmdProxy1,
  cdmaSetBroadcastSmsConfig.row (some .setCdmaBroadcastConfigResponse) rilCmdProxy1,
  cdmaSmsBroadcastActivation.row (some .setCdmaBroadcastActivationResponse) rilCmdProxy1,
  cdmaSubscription.row (some .getCDMASubscriptionResponse) rilCmdProxy1,
  cdmaWriteSmsToRuim.row (some .writeSmsToRuimResponse) rilCmdProxy1,
  cdmaDeleteSmsOnRuim.row (some .deleteSmsOnRuimResponse) rilCmdProxy1,
  deviceIdentity.row (some .getDeviceIdentityResponse) rilCmdProxy3,
  exitEmergencyCallbackMode.row (some .exitEmergencyCallbackModeResponse) rilCmdProxy2,
  getSmscAddress.row (some .getSmscAddressResponse) rilCmdProxy2,
  setSmscAddress.row (some .setSmscAddressResponse) rilCmdProxy2,
  reportSmsMemoryStatus.row (some .reportSmsMemoryStatusResponse) rilCmdProxy1,
  reportStkServiceIsRunning.row (some .reportStkServiceIsRunningResponse) rilCmdProxy1,
  cdmaGetSubscriptionSource.row (some .getCdmaSubscriptionSourceResponse) rilCmdProxy1,
  isimAuthentication.row (some .requestIsimAuthenticationResponse) rilCmdProxy1,
  acknowledgeIncomingGsmSmsWithPdu.row
    (some .acknowledgeIncomingGsmSmsWithPduResponse) rilCmdProxy1,
  stkSendEnvelopeWithStatus.row (some .sendEnvelopeWithStatusResponse) rilCmdProxy2,
  voiceRadioTech.row (some .getVoiceRadioTechnologyResponse) rilCmdProxy3,
  getCellInfoList.row (some .getCellInfoListResponse) rilCmdProxy2,
  setUnsolCellInfoListRate.row (some .setCellInfoListRateResponse) rilCmdProxy3,
  setInitialAttachApn.row (some .setInitialAttachApnResponse) rilCmdProxy1,
  imsRegistrationState.row (some .getImsRegistrationStateResponse) rilCmdProxy3,
  imsSendSms.row (some .sendImsSmsResponse) rilCmdProxy1,
  simTransmitApduBasic.row (some .iccTransmitApduBasicChannelResponse) rilCmdProxy1,
  simOpenChannel.row (some .iccOpenLogicalChannelResponse) rilCmdProxy1,
  simCloseChannel.row (some .iccCloseLogicalChannelResponse) rilCmdProxy1,
  simTransmitApduChannel.row (some .iccTransmitApduLogicalChannelResponse) rilCmdProxy1,
  nvReadItem.row (some .nvReadItemResponse) rilCmdProxy4,
  nvWriteItem.row (some .nvWriteItemResponse) rilCmdProxy4,
  nvWriteCdmaPrl.row (some .nvWriteCdmaPrlResponse) rilCmdProxy4,
  nvResetConfig.row (some .nvResetConfigResponse) rilCmdProxy4,
  setUiccSubscription.row (some .setUiccSubscriptionResponse) rilCmdProxy1,
  allowData.row (some .setDataAllowedResponse) rilCmdProxy5,
  getHardwareConfig.row (some .getHardwareConfigResponse) rilCmdProxy1,
  simAuthentication.row (some .requestIccSimAuthenticationResponse) rilCmdProxy3,
  getDcRtInfo.row none rilCmdProxy1,
  setDcRtInfoRate.row none rilCmdProxy1,
  setDataProfile.row (some .setDataProfileResponse) rilCmdProxy1,
  shutdown.row (some .requestShutdownResponse) rilCmdProxy1,
  getRadioCapability.row (some .getRadioCapabilityResponse) rilCmdProxy1,
  setRadioCapability.row (some .setRadioCapabilityResponse) rilCmdProxy1,
  startLce.row (some .startLceServiceResponse) rilCmdProxy5,
  stopLce.row (some .stopLceServiceResponse) rilCmdProxy5,
  pullLcedata.row (some .pullLceDataResponse) rilCmdProxy5,
  getActivityInfo.row (some .getModemActivityInfoResponse) rilCmdProxy1,
  setCarrierRestrictions.row (some .setAllowedCarriersResponse) rilCmdProxy4,
  getCarrierRestrictions.row (some .getAllowedCarriersResponse) rilCmdProxy4,
  sendDeviceState.row (some .sendDeviceStateResponse) rilCmdProxy3,
  setUnsolicitedResponseFilter.row (some .setIndicationFilterResponse) rilCmdProxy3,
  setSimCardPower.row (some .setSimCardPowerResponse) rilCmdProxy1]

end Ril
