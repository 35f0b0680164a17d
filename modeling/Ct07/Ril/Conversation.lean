/-
# Requests and their answers (`ril.cpp`, `ril_service.cpp`)

A client gives each request a serial number of its own.  The answer goes to the response object of
its slot, with the serial number, through the method of the response object that is for requests of
that kind.  Which method is called depends on the row that the request gets of the command table,
and on the response function in that row.

* `ResponseFunction.answer` : the method that a response function calls;
* `State`, `step` : the pending requests, with what was asked and what was told;
* `answers_match_iff` : answers are for what was asked, as long as none is told for one of
  eight entry points.

The methods of the response object are named by the entry points they are for.
-/
import Ct07.Ril.Acknowledgement

open PartialStep

namespace Ril

/-- The method of `IRadioResponse` or `IOemHookResponse` that a response function calls, named by
the requests it is for. -/
def ResponseFunction.answer : ResponseFunction → EntryPoint
  | .getIccCardStatusResponse => .getIccCardStatus
  | .supplyIccPinForAppResponse => .supplyIccPinForApp
  | .supplyIccPukForAppResponse => .supplyIccPukForApp
  | .supplyIccPin2ForAppResponse => .supplyIccPin2ForApp
  | .supplyIccPuk2ForAppResponse => .supplyIccPuk2ForApp
  | .changeIccPinForAppResponse => .changeIccPinForApp
  | .changeIccPin2ForAppResponse => .changeIccPin2ForApp
  | .supplyNetworkDepersonalizationResponse => .supplyNetworkDepersonalization
  | .getCurrentCallsResponse => .getCurrentCalls
  | .dialResponse => .dial
  | .getIMSIForAppResponse => .getImsiForApp
  | .hangupConnectionResponse => .hangup
  | .hangupWaitingOrBackgroundResponse => .hangupWaitingOrBackground
  | .hangupForegroundResumeBackgroundResponse => .hangupWaitingOrBackground
  | .switchWaitingOrHoldingAndActiveResponse => .switchWaitingOrHoldingAndActive
  | .conferenceResponse => .conference
  | .rejectCallResponse => .rejectCall
  | .getLastCallFailCauseResponse => .getLastCallFailCause
  | .getSignalStrengthResponse => .getSignalStrength
  | .getVoiceRegistrationStateResponse => .getVoiceRegistrationState
  | .getDataRegistrationStateResponse => .getDataRegistrationState
  | .getOperatorResponse => .getOperator
  | .setRadioPowerResponse => .setRadioPower
  | .sendDtmfResponse => .sendDtmf
  | .sendSmsResponse => .sendSms
  | .sendSMSExpectMoreResponse => .sendSMSExpectMore
  | .setupDataCallResponse => .setupDataCall
  | .iccIOForAppResponse => .iccIOForApp
  | .sendUssdResponse => .sendUssd
  | .cancelPendingUssdResponse => .cancelPendingUssd
  | .getClirResponse => .getClir
  | .setClirResponse => .setClir
  | .getCallForwardStatusResponse => .getCallForwardStatus
  | .setCallForwardResponse => .setCallForward
  | .getCallWaitingResponse => .getCallWaiting
  | .setCallWaitingResponse => .setCallWaiting
  | .acknowledgeLastIncomingGsmSmsResponse => .acknowledgeLastIncomingGsmSms
  | .getImeiAsDeviceIdentityResponse => .getDeviceIdentity
  | .acceptCallResponse => .acceptCall
  | .deactivateDataCallResponse => .deactivateDataCall
  | .getFacilityLockForAppResponse => .getFacilityLockForApp
  | .setFacilityLockForAppResponse => .setFacilityLockForApp
  | .setBarringPasswordResponse => .setBarringPassword
  | .getNetworkSelectionModeResponse => .getNetworkSelectionMode
  | .setNetworkSelectionModeAutomaticResponse => .setNetworkSelectionModeAutomatic
  | .setNetworkSelectionModeManualResponse => .setNetworkSelectionModeManual
  | .getAvailableNetworksResponse => .getAvailableNetworks
  | .startDtmfResponse => .startDtmf
  | .stopDtmfResponse => .stopDtmf
  | .getBasebandVersionResponse => .getBasebandVersion
  | .separateConnectionResponse => .separateConnection
  | .setMuteResponse => .setMute
  | .getMuteResponse => .getMute
  | .getClipResponse => .getClip
  | .getDataCallListResponse => .getDataCallList
  | .sendRequestRawResponse => .sendRequestRaw
  | .sendRequestStringsResponse => .sendRequestStrings
  | .sendDeviceStateResponse => .sendDeviceState
  | .setSuppServiceNotificationsResponse => .setSuppServiceNotifications
  | .writeSmsToSimResponse => .writeSmsToSim
  | .deleteSmsOnSimResponse => .deleteSmsOnSim
  | .setBandModeResponse => .setBandMode
  | .getAvailableBandModesResponse => .getAvailableBandModes
  | .sendEnvelopeResponse => .sendEnvelope
  | .sendTerminalResponseToSimResponse => .sendTerminalResponseToSim
  | .handleStkCallSetupRequestFromSimResponse => .handleStkCallSetupRequestFromSim
  | .explicitCallTransferResponse => .explicitCallTransfer
  | .setPreferredNetworkTypeResponse => .setPreferredNetworkType
  | .getPreferredNetworkTypeResponse => .getPreferredNetworkType
  | .getNeighboringCidsResponse => .getNeighboringCids
  | .setLocationUpdatesResponse => .setLocationUpdates
  | .setCdmaSubscriptionSourceResponse => .setCdmaSubscriptionSource
  | .setCdmaRoamingPreferenceResponse => .setCdmaRoamingPreference
  | .getCdmaRoamingPreferenceResponse => .getCdmaRoamingPreference
  | .setTTYModeResponse => .setTTYMode
  | .getTTYModeResponse => .getTTYMode
  | .setPreferredVoicePrivacyResponse => .setPreferredVoicePrivacy
  | .getPreferredVoicePrivacyResponse => .getPreferredVoicePrivacy
  | .sendCDMAFeatureCodeResponse => .sendCDMAFeatureCode
  | .sendBurstDtmfResponse => .sendBurstDtmf
  | .sendCdmaSmsResponse => .sendCdmaSms
  | .acknowledgeLastIncomingCdmaSmsResponse => .acknowledgeLastIncomingCdmaSms
  | .getGsmBroadcastConfigResponse => .getGsmBroadcastConfig
  | .setGsmBroadcastConfigResponse => .setGsmBroadcastConfig
  | .setGsmBroadcastActivationResponse => .setGsmBroadcastActivation
  | .getCdmaBroadcastConfigResponse => .getCdmaBroadcastConfig
  | .setCdmaBroadcastConfigResponse => .setCdmaBroadcastConfig
  | .setCdmaBroadcastActivationResponse => .setCdmaBroadcastActivation
  | .getCDMASubscriptionResponse => .getCDMASubscription
  | .writeSmsToRuimResponse => .writeSmsToRuim
  | .deleteSmsOnRuimResponse => .deleteSmsOnRuim
  | .getDeviceIdentityResponse => .getDeviceIdentity
  | .exitEmergencyCallbackModeResponse => .exitEmergencyCallbackMode
  | .getSmscAddressResponse => .getSmscAddress
  | .setSmscAddressResponse => .setSmscAddress
  | .reportSmsMemoryStatusResponse => .reportSmsMemoryStatus
  | .reportStkServiceIsRunningResponse => .reportStkServiceIsRunning
  | .getCdmaSubscriptionSourceResponse => .getCdmaSubscriptionSource
  | .requestIsimAuthenticationResponse => .requestIsimAuthentication
  | .acknowledgeIncomingGsmSmsWithPduResponse => .acknowledgeIncomingGsmSmsWithPdu
  | .sendEnvelopeWithStatusResponse => .sendEnvelopeWithStatus
  | .getVoiceRadioTechnologyResponse => .getVoiceRadioTechnology
  | .getCellInfoListResponse => .getCellInfoList
  | .setCellInfoListRateResponse => .setCellInfoListRate
  | .setInitialAttachApnResponse => .setInitialAttachApn
  | .getImsRegistrationStateResponse => .getImsRegistrationState
  | .sendImsSmsResponse => .sendImsSms
  | .iccTransmitApduBasicChannelResponse => .iccTransmitApduBasicChannel
  | .iccOpenLogicalChannelResponse => .iccOpenLogicalChannel
  | .iccCloseLogicalChannelResponse => .iccCloseLogicalChannel
  | .iccTransmitApduLogicalChannelResponse => .iccTransmitApduLogicalChannel
  | .nvReadItemResponse => .nvReadItem
  | .nvWriteItemResponse => .nvWriteItem
  | .nvWriteCdmaPrlResponse => .nvWriteCdmaPrl
  | .nvResetConfigResponse => .nvResetConfig
  | .setUiccSubscriptionResponse => .setUiccSubscription
  | .setDataAllowedResponse => .setDataAllowed
  | .getHardwareConfigResponse => .getHardwareConfig
  | .requestIccSimAuthenticationResponse => .requestIccSimAuthentication
  | .setDataProfileResponse => .setDataProfile
  | .requestShutdownResponse => .requestShutdown
  | .getRadioCapabilityResponse => .getRadioCapability
  | .setRadioCapabilityResponse => .setRadioCapability
  | .startLceServiceResponse => .startLceService
  | .stopLceServiceResponse => .stopLceService
  | .pullLceDataResponse => .pullLceData
  | .getModemActivityInfoResponse => .getModemActivityInfo
  | .setAllowedCarriersResponse => .setAllowedCarriers
  | .getAllowedCarriersResponse => .getAllowedCarriers
  | .setIndicationFilterResponse => .setIndicationFilter
  | .setSimCardPowerResponse => .setSimCardPower

namespace Conversation

/-! ## State -/

/-- A request, as its caller knows it. -/
structure Asked where
  entryPoint : EntryPoint
  serial : ℤ
  slotId : ℕ
  deriving DecidableEq

/-- A call of the response object of a slot. -/
structure Told where
  /-- the request that it is made for; the client does not see this -/
  number : ℕ
  answer : EntryPoint
  serial : ℤ
  slotId : ℕ

/-- `asked` has the requests by their numbers, and `told` the latest call first. -/
structure State where
  pending : Pending.State
  asked : ℕ → Option Asked
  told : List Told

def State.init : State := ⟨Pending.State.init, fun _ => none, []⟩

/-- An event of the pending lists, and whether the response object that it calls is set. -/
structure Event where
  pending : Pending.Event
  connected : Bool

/-! ## Operations -/

/-- The entry points that are not methods of the client: indications of the vendor, and a timer. -/
def ownRequests : List EntryPoint :=
  [.registrationSuspendInd, .incomingCallInd, .mtkEcpiInd, .callInfoInd,
    .sendInitialAttachApnAgain]

/-- These requests have the serial number -1. -/
def serialFits : Pending.Event → Bool
  | .request e _ _ serial _ _ => !ownRequests.contains e || serial == -1
  | _ => true

/-- What is asked, once the event has happened. -/
def State.asks (S : State) : Pending.Event → ℕ → Option Asked
  | .request e _ (some _) serial slotId _ =>
      Function.update S.asked S.pending.issued (some ⟨e, serial, slotId⟩)
  | _ => S.asked

section Operations

variable (c : Commands) (mtkCommandStart simCount : ℕ)

/-- `pRI->pCI->responseFunction(pRI->socket_id, ..., pRI->token, ...)` -/
def call (p : Pending.State) (a : ℕ) (ri : RequestInfo) : Option Told :=
  (c.at ri.pCI).responseFunction.map fun f => ⟨p.requestOf a, f.answer, ri.token, ri.socketId⟩

/-- The call that an event leads to, by `sendErrorResponse` or by `RIL_onRequestComplete`. -/
def tells (p : Pending.State) : Pending.Event → Option Told
  | .request _ route (some a) serial slotId (some _) =>
      let p := Pending.addRequestToList c mtkCommandStart simCount p serial slotId
        route.request.code a
      (p.heap a).bind (call c p a)
  | .onRequestComplete t strange =>
      (Acknowledgement.completed simCount p t strange).bind fun (a, ri) =>
        if ri.isLocal || ri.cancelled then none else call c p a ri
  | _ => none

def step (S : State) (e : Event) : Option State :=
  if serialFits e.pending then
    (Pending.step c mtkCommandStart simCount S.pending e.pending).map fun p =>
      { pending := p
        asked := S.asks e.pending
        told :=
          if e.connected then
            (tells c mtkCommandStart simCount S.pending e.pending).toList ++ S.told
          else S.told }
  else none

end Operations

/-! ## What is proved -/

/-- Each call is the answer to what was asked: for a request of that kind, with its serial number
and in its slot. -/
def State.Matching (S : State) : Prop :=
  ∀ m ∈ S.told, S.asked m.number = some ⟨m.answer, m.serial, m.slotId⟩

/-- The entry points whose requests are answered as if they were others. -/
def misanswered : List EntryPoint :=
  [.hangupForegroundResumeBackground, .setSimCardPower, .stopNetworkScan] ++ ownRequests

/-- No request of these is answered by the event. -/
def Event.Proper (c : Commands) (mtkCommandStart simCount : ℕ) (S : State) (e : Event) : Prop :=
  e.connected = true → ∀ m ∈ tells c mtkCommandStart simCount S.pending e.pending,
    ∀ q ∈ S.asks e.pending m.number, q.entryPoint ∉ misanswered

/-! ## The rows of the entry points -/

/-- The table of this build, with anything behind it. -/
def build (beyond : ℕ → CommandInfo) : Commands := ⟨sCommands, beyond⟩

/-- The method that a request through `route` is answered by. -/
def answerOf (c : Commands) (mtkCommandStart : ℕ) (route : Route) : Option EntryPoint :=
  (c.at (commandIndex mtkCommandStart route.request.code)).responseFunction.map
    ResponseFunction.answer

/-- Each route but one has a row of the table.  Whether that is a row for the entry point is known
from the table. -/
theorem row_answer (e : EntryPoint) (he : e ≠ .stopNetworkScan) :
    ∀ route ∈ e.routes, ∃ row ∈ sCommands[commandIndex 0 route.request.code]?,
      (row.responseFunction.map ResponseFunction.answer = some e ↔ e ∉ misanswered) := by
  revert he
  cases e <;> decide +kernel

theorem answer_ne_stopNetworkScan (f : ResponseFunction) : f.answer ≠ .stopNetworkScan := by
  cases f <;> decide

theorem answerOf_eq_iff (beyond : ℕ → CommandInfo) {e : EntryPoint} {route : Route}
    (hroute : route ∈ e.routes) :
    answerOf (build beyond) 0 route = some e ↔ e ∉ misanswered := by
  by_cases he : e = .stopNetworkScan
  · -- the row is behind the table, but no function answers for this entry point
    subst he
    constructor
    · intro h
      obtain ⟨f, -, hf⟩ := Option.map_eq_some_iff.1 h
      exact absurd hf (answer_ne_stopNetworkScan f)
    · intro h
      exact absurd (by decide) h
  · obtain ⟨row, hrow, hanswer⟩ := row_answer e he route hroute
    have hat : (build beyond).at (commandIndex 0 route.request.code) = row := by
      rw [Option.mem_def] at hrow
      rw [Commands.at, build, List.getD_eq_getElem?_getD, hrow, Option.getD_some]
    rw [answerOf, hat]
    exact hanswer

/-! ## The pending requests are those that were asked -/

section Steps

variable {c : Commands} {mtkCommandStart simCount : ℕ}

/-- The record of a pending request is that of what was asked. -/
def Fits (mtkCommandStart : ℕ) (q : Asked) (ri : RequestInfo) : Prop :=
  ri.token = q.serial ∧ ri.socketId = q.slotId ∧
    ∃ route ∈ q.entryPoint.routes, ri.pCI = commandIndex mtkCommandStart route.request.code

/-- What the lists and the calls know of the requests. -/
structure State.Remembers (mtkCommandStart simCount : ℕ) (S : State) : Prop where
  wellFormed : S.pending.WellFormed simCount
  pending : ∀ a ri, S.pending.heap a = some ri →
    ∃ q, S.asked (S.pending.requestOf a) = some q ∧ Fits mtkCommandStart q ri
  told_lt : ∀ m ∈ S.told, m.number < S.pending.issued

theorem remembers_init : State.init.Remembers mtkCommandStart simCount where
  wellFormed := Pending.wellFormed_init simCount
  pending := by
    rintro a ri ⟨⟩
  told_lt := by
    rintro m ⟨⟩

/-- The record is of the same request. -/
def SameRequest (ri rj : RequestInfo) : Prop :=
  ri.token = rj.token ∧ ri.socketId = rj.socketId ∧ ri.pCI = rj.pCI

theorem Fits.congr {q : Asked} {ri rj : RequestInfo} (h : Fits mtkCommandStart q ri)
    (hsame : SameRequest ri rj) : Fits mtkCommandStart q rj := by
  obtain ⟨htoken, hsocket, hrow⟩ := hsame
  unfold Fits
  rw [← htoken, ← hsocket, ← hrow]
  exact h

/-- A request that gets a cell is asked. -/
theorem request_cases {p p' : Pending.State} {e : EntryPoint} {route : Route} {a : ℕ}
    {serial : ℤ} {slotId : ℕ} {own : Option OwnError}
    (hs : Pending.step c mtkCommandStart simCount p
      (.request e route (some a) serial slotId own) = some p') :
    route ∈ e.routes ∧ p'.heap = (Pending.addRequestToList c mtkCommandStart simCount p serial
        slotId route.request.code a).heap ∧
      p'.requestOf = Function.update p.requestOf a p.issued ∧ p'.issued = p.issued + 1 := by
  simp only [Pending.step, Option.ite_none_right_eq_some] at hs
  obtain ⟨⟨hroute, -, -⟩, -, hs⟩ := hs
  refine ⟨hroute, ?_⟩
  cases own with
  | none =>
      cases Option.some.inj hs
      exact ⟨rfl, rfl, rfl⟩
  | some err =>
      rw [Pending.sendErrorResponse_eq hs]
      exact ⟨rfl, rfl, rfl⟩

/-- Other events leave the requests as they are, or take one away. -/
theorem other_cases {p p' : Pending.State} {e : Pending.Event} (h : p.WellFormed simCount)
    (hs : Pending.step c mtkCommandStart simCount p e = some p')
    (hother : ∀ ep route a serial slotId own, e ≠ .request ep route (some a) serial slotId own) :
    p'.requestOf = p.requestOf ∧ p'.issued = p.issued ∧
      ∀ a rj, p'.heap a = some rj → ∃ ri, p.heap a = some ri ∧ SameRequest ri rj := by
  have hsame : ∀ a rj, p.heap a = some rj → ∃ ri, p.heap a = some ri ∧ SameRequest ri rj :=
    fun a rj ha => ⟨rj, ha, rfl, rfl, rfl⟩
  obtain ⟨l, hl⟩ := h
  cases e with
  | request ep route cell serial slotId own =>
      cases cell with
      | some a => exact absurd rfl (hother ep route a serial slotId own)
      | none =>
          simp only [Pending.step, Option.ite_none_right_eq_some, Option.some.injEq] at hs
          obtain ⟨-, -, rfl⟩ := hs
          exact ⟨rfl, rfl, hsame⟩
  | onRequestAck t strange =>
      cases Option.some.inj hs
      rcases Pending.onRequestAck_cases hl t strange with heq | ⟨a, heq⟩
      · rw [heq]
        exact ⟨rfl, rfl, hsame⟩
      · rw [heq]
        refine ⟨rfl, rfl, fun b rj hb => ?_⟩
        by_cases hba : b = a
        · subst hba
          simp only [Pending.markAck, Function.update_self, Option.map_eq_some_iff] at hb
          obtain ⟨ri, hri, rfl⟩ := hb
          exact ⟨ri, hri, rfl, rfl, rfl⟩
        · simp only [Pending.markAck, Function.update_of_ne hba] at hb
          exact hsame b rj hb
  | onRequestComplete t strange =>
      cases Option.some.inj hs
      rcases Acknowledgement.completed_cases hl t strange with
        ⟨-, heq⟩ | ⟨k, a, place, ri, -, -, heq⟩
      · rw [heq]
        exact ⟨rfl, rfl, hsame⟩
      · obtain ⟨hissued, hof, -, -, -⟩ := @Pending.unlink_record p k a place
        rw [heq]
        refine ⟨hof, hissued, fun b rj hb => ?_⟩
        obtain ⟨-, ri, link, hri, rfl⟩ := Acknowledgement.finish_heap k a place hb
        exact ⟨ri, hri, rfl, rfl, rfl⟩
  | malTokenIssued t =>
      simp only [Pending.step, Option.ite_none_right_eq_some, Option.some.injEq] at hs
      obtain ⟨-, rfl⟩ := hs
      exact ⟨rfl, rfl, hsame⟩
  | malTokenFreed t =>
      cases Option.some.inj hs
      exact ⟨rfl, rfl, hsame⟩

/-! ## One step -/

variable {S S' : State}

/-- A call for a request that fits what was asked. -/
theorem call_fits {p : Pending.State} {a : ℕ} {ri : RequestInfo} {q : Asked} {m : Told}
    (hfits : Fits mtkCommandStart q ri) (hm : m ∈ call c p a ri) :
    m.number = p.requestOf a ∧ m.serial = q.serial ∧ m.slotId = q.slotId ∧
      ∃ route ∈ q.entryPoint.routes, answerOf c mtkCommandStart route = some m.answer := by
  obtain ⟨htoken, hsocket, route, hroute, hrow⟩ := hfits
  obtain ⟨f, hf, rfl⟩ := Option.map_eq_some_iff.1 hm
  refine ⟨rfl, htoken, hsocket, route, hroute, ?_⟩
  rw [answerOf, ← hrow, hf, Option.map_some]

/-- What an event tells is told for a request that was asked. -/
theorem tells_fits (h : S.Remembers mtkCommandStart simCount) {e : Pending.Event}
    {p' : Pending.State} (hs : Pending.step c mtkCommandStart simCount S.pending e = some p')
    {m : Told} (hm : m ∈ tells c mtkCommandStart simCount S.pending e) :
    m.number < p'.issued ∧ ∃ q, S.asks e m.number = some q ∧ m.serial = q.serial ∧
      m.slotId = q.slotId ∧
      ∃ route ∈ q.entryPoint.routes, answerOf c mtkCommandStart route = some m.answer := by
  cases e with
  | request ep route cell serial slotId own =>
      cases cell with
      | none => cases hm
      | some a =>
          cases own with
          | none => cases hm
          | some err =>
              obtain ⟨hroute, -, -, hissued⟩ := request_cases hs
              obtain ⟨ri, hri, hcall⟩ := Option.bind_eq_some_iff.1 hm
              simp only [Pending.addRequestToList, Function.update_self, Option.some.injEq] at hri
              subst hri
              have hfits : Fits mtkCommandStart ⟨ep, serial, slotId⟩
                  { newRequestInfo c mtkCommandStart serial slotId route.request.code with
                    pNext := S.pending.pendingRequests
                      (Pending.pendingRequestsHook simCount slotId) } :=
                ⟨rfl, rfl, route, hroute, rfl⟩
              obtain ⟨hnumber, hrest⟩ := call_fits hfits hcall
              rw [Pending.addRequestToList_requestOf, Function.update_self] at hnumber
              refine ⟨by omega, ⟨ep, serial, slotId⟩, ?_, hrest⟩
              rw [State.asks, hnumber, Function.update_self]
  | onRequestComplete t strange =>
      obtain ⟨⟨a, ri⟩, hcompleted, hcall⟩ := Option.bind_eq_some_iff.1 hm
      obtain ⟨l, hl⟩ := h.wellFormed
      have hri : S.pending.heap a = some ri := by
        rcases @Acknowledgement.completed_cases c simCount S.pending l hl t strange with
          ⟨hnone, -⟩ | ⟨k, b, place, rj, hrj, hsome, -⟩
        · rw [hnone] at hcompleted
          cases hcompleted
        · rw [hsome] at hcompleted
          cases hcompleted
          exact hrj
      obtain ⟨q, hq, hfits⟩ := h.pending a ri hri
      simp only [Option.ite_none_left_eq_some] at hcall
      obtain ⟨hnumber, hrest⟩ := call_fits hfits hcall.2
      have hother := other_cases h.wellFormed hs (by rintro _ _ _ _ _ _ ⟨⟩)
      rw [hnumber, hother.2.1]
      exact ⟨Acknowledgement.requestOf_lt h.wellFormed hri, q, hq, hrest⟩
  | onRequestAck t strange => cases hm
  | malTokenIssued t => cases hm
  | malTokenFreed t => cases hm

/-- What has been told is for requests that were asked before. -/
theorem asks_of_lt (S : State) (e : Pending.Event) {n : ℕ} (hn : n < S.pending.issued) :
    S.asks e n = S.asked n := by
  unfold State.asks
  split
  · rw [Function.update_of_ne (Nat.ne_of_lt hn)]
  · rfl

theorem step_eq_some {e : Event} (hs : step c mtkCommandStart simCount S e = some S') :
    ∃ p', Pending.step c mtkCommandStart simCount S.pending e.pending = some p' ∧
      S'.pending = p' ∧ S'.asked = S.asks e.pending ∧
      ∀ m, m ∈ S'.told ↔ m ∈ S.told ∨ e.connected = true ∧
        m ∈ tells c mtkCommandStart simCount S.pending e.pending := by
  simp only [step, Option.ite_none_right_eq_some, Option.map_eq_some_iff] at hs
  obtain ⟨-, p', hp, rfl⟩ := hs
  refine ⟨p', hp, rfl, rfl, fun m => ?_⟩
  dsimp only
  cases e.connected with
  | false => simp
  | true => simp [or_comm]

/-- A step of the lists leaves the pending requests as they were asked. -/
theorem step_pending (h : S.Remembers mtkCommandStart simCount) {e : Pending.Event}
    {p' : Pending.State} (hs : Pending.step c mtkCommandStart simCount S.pending e = some p') :
    S.pending.issued ≤ p'.issued ∧ ∀ a ri, p'.heap a = some ri →
      ∃ q, S.asks e (p'.requestOf a) = some q ∧ Fits mtkCommandStart q ri := by
  by_cases hother : ∀ ep route a serial slotId own,
      e ≠ .request ep route (some a) serial slotId own
  · obtain ⟨hof, hissued, hcells⟩ := other_cases h.wellFormed hs hother
    refine ⟨Nat.le_of_eq hissued.symm, fun a rj hrj => ?_⟩
    obtain ⟨ri, hri, hsame⟩ := hcells a rj hrj
    obtain ⟨q, hq, hfits⟩ := h.pending a ri hri
    rw [hof, asks_of_lt S e (Acknowledgement.requestOf_lt h.wellFormed hri)]
    exact ⟨q, hq, hfits.congr hsame⟩
  · push Not at hother
    obtain ⟨ep, route, a, serial, slotId, own, rfl⟩ := hother
    obtain ⟨hroute, hheap, hof, hissued⟩ := request_cases hs
    refine ⟨by omega, fun b rj hrj => ?_⟩
    rw [hheap] at hrj
    rw [hof]
    by_cases hba : b = a
    · -- the new request
      subst hba
      simp only [Pending.addRequestToList, Function.update_self, Option.some.injEq] at hrj
      subst hrj
      refine ⟨⟨ep, serial, slotId⟩, ?_, rfl, rfl, route, hroute, rfl⟩
      rw [State.asks, Function.update_self, Function.update_self]
    · simp only [Pending.addRequestToList, Function.update_of_ne hba] at hrj
      rw [Function.update_of_ne hba,
        asks_of_lt S _ (Acknowledgement.requestOf_lt h.wellFormed hrj)]
      exact h.pending b rj hrj

theorem step_remembers (h : S.Remembers mtkCommandStart simCount) {e : Event}
    (hs : step c mtkCommandStart simCount S e = some S') :
    S'.Remembers mtkCommandStart simCount := by
  obtain ⟨p', hp, rfl, hasked, htold⟩ := step_eq_some hs
  obtain ⟨hissued, hpending⟩ := step_pending h hp
  refine ⟨Pending.step_wellFormed h.wellFormed hp, ?_, ?_⟩
  · rw [hasked]
    exact hpending
  · intro m hm
    obtain hm | ⟨-, hm⟩ := (htold m).1 hm
    · exact Nat.lt_of_lt_of_le (h.told_lt m hm) hissued
    · exact (tells_fits h hp hm).1

/-- The calls match after a step exactly when they did before and the step answers none of the
requests that are misanswered. -/
theorem step_matching {beyond : ℕ → CommandInfo} (h : S.Remembers 0 simCount) {e : Event}
    (hs : step (build beyond) 0 simCount S e = some S') :
    S'.Matching ↔ S.Matching ∧ e.Proper (build beyond) 0 simCount S := by
  obtain ⟨p', hp, rfl, hasked, htold⟩ := step_eq_some hs
  have hold : ∀ m ∈ S.told, S'.asked m.number = S.asked m.number := by
    intro m hm
    rw [hasked, asks_of_lt S e.pending (h.told_lt m hm)]
  -- a call has the serial number and the slot of its request in any case
  have hnew : ∀ m ∈ tells (build beyond) 0 simCount S.pending e.pending,
      (S'.asked m.number = some ⟨m.answer, m.serial, m.slotId⟩ ↔
        ∀ q ∈ S.asks e.pending m.number, q.entryPoint ∉ misanswered) := by
    intro m hm
    obtain ⟨-, q, hq, hserial, hslot, route, hroute, hanswer⟩ := tells_fits h hp hm
    have hrow := answerOf_eq_iff beyond hroute
    rw [hanswer, Option.some.injEq] at hrow
    rw [hasked, hq, hserial, hslot, Option.some.injEq]
    constructor
    · intro heq q' hq'
      cases hq'
      exact hrow.1 (congrArg Asked.entryPoint heq).symm
    · intro hproper
      rw [hrow.2 (hproper q rfl)]
  constructor
  · intro h'
    constructor
    · intro m hm
      rw [← hold m hm]
      exact h' m ((htold m).2 (Or.inl hm))
    · intro hconnected m hm
      exact (hnew m hm).1 (h' m ((htold m).2 (Or.inr ⟨hconnected, hm⟩)))
  · rintro ⟨hmatching, hproper⟩ m hm
    obtain hm | ⟨hconnected, hm⟩ := (htold m).1 hm
    · rw [hold m hm]
      exact hmatching m hm
    · exact (hnew m hm).2 (hproper hconnected m hm)

end Steps

/-- Each call of the response object is the answer to what was asked, in every state of a run,
exactly when no step answers a request of the misanswered entry points. -/
theorem answers_match_iff (beyond : ℕ → CommandInfo) (simCount : ℕ) (es : List Event) :
    Always (step (build beyond) 0 simCount) State.Matching State.init es ↔
      Meets (step (build beyond) 0 simCount)
        (fun S e => e.Proper (build beyond) 0 simCount S) State.init es := by
  exact always_iff_meets (fun S (h : S.Remembers 0 simCount ∧ S.Matching) => h.2)
    (fun S e S' h hproper hs =>
      ⟨step_remembers h.1 hs, (step_matching h.1 hs).2 ⟨h.2, hproper⟩⟩)
    (fun S e S' h himproper hs hmatching =>
      himproper ((step_matching h.1 hs).1 hmatching).2)
    ⟨remembers_init, by rintro m ⟨⟩⟩ es

end Conversation

end Ril
