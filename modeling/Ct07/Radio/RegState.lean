/-
# Registration states (`ril_service.cpp`)

A vendor of version 14 or lower answers the requests for the registration state with an array
of strings.  `getVoiceRegistrationStateResponse` and `getDataRegistrationStateResponse` accept
several lengths of the array.  Which strings are read depends on the length and, for the
identity of the cell, on the radio technology.

Every read of the array is checked.

* `fillCellIdentityFromVoiceRegStateResponseString_isOk` : the cell identity is read inside of
  an array of four strings or more;
* `registrationState_inBounds_iff` : when the reads of both responses are inside of the array.
-/
import Ct07.Lib.CheckedMemory
import Ct07.Radio.Reply

open CheckedMemory

namespace Radio.RegState

/-! ## Cell identities -/

/-- `RIL_CellInfoType` -/
inductive CellInfoType where
  | none
  | gsm
  | cdma
  | lte
  | wcdma
  | tdScdma
  deriving DecidableEq, Repr

/-- `CellIdentityGsm`, with country and network codes of type `σ`. -/
structure CellIdentityGsm (σ : Type) where
  mcc : σ
  mnc : σ
  lac : ℤ
  cid : ℤ
  arfcn : ℤ
  bsic : ℕ
  deriving DecidableEq

structure CellIdentityWcdma (σ : Type) where
  mcc : σ
  mnc : σ
  lac : ℤ
  cid : ℤ
  psc : ℤ
  uarfcn : ℤ
  deriving DecidableEq

structure CellIdentityCdma where
  networkId : ℤ
  systemId : ℤ
  baseStationId : ℤ
  longitude : ℤ
  latitude : ℤ
  deriving DecidableEq

structure CellIdentityLte (σ : Type) where
  mcc : σ
  mnc : σ
  ci : ℤ
  pci : ℤ
  tac : ℤ
  earfcn : ℤ
  deriving DecidableEq

structure CellIdentityTdscdma (σ : Type) where
  mcc : σ
  mnc : σ
  lac : ℤ
  cid : ℤ
  cpid : ℤ
  deriving DecidableEq

/-- `RIL_CellIdentity_v16`: the type, and the member of the union that goes with it. -/
inductive RilCellIdentity where
  | none
  | gsm (c : CellIdentityGsm ℤ)
  | wcdma (c : CellIdentityWcdma ℤ)
  | cdma (c : CellIdentityCdma)
  | lte (c : CellIdentityLte ℤ)
  | tdScdma (c : CellIdentityTdscdma ℤ)
  deriving DecidableEq

/-- `CellIdentity`; each list has one element or none. -/
structure CellIdentity where
  cellInfoType : CellInfoType
  cellIdentityGsm : List (CellIdentityGsm Text)
  cellIdentityWcdma : List (CellIdentityWcdma Text)
  cellIdentityCdma : List CellIdentityCdma
  cellIdentityLte : List (CellIdentityLte Text)
  cellIdentityTdscdma : List (CellIdentityTdscdma Text)
  deriving DecidableEq

/-- A cell of a type without an identity, and the zeroed result. -/
def CellIdentity.none : CellIdentity := ⟨.none, [], [], [], [], []⟩

/-- `std::to_string` -/
def toText (i : ℤ) : Text := (toString i).toList

/-- `fillCellIdentityResponse` -/
def fillCellIdentityResponse : RilCellIdentity → CellIdentity
  | .none => .none
  | .gsm c => { CellIdentity.none with
      cellInfoType := .gsm
      cellIdentityGsm := [⟨toText c.mcc, toText c.mnc, c.lac, c.cid, c.arfcn, c.bsic⟩] }
  | .wcdma c => { CellIdentity.none with
      cellInfoType := .wcdma
      cellIdentityWcdma := [⟨toText c.mcc, toText c.mnc, c.lac, c.cid, c.psc, c.uarfcn⟩] }
  | .cdma c => { CellIdentity.none with
      cellInfoType := .cdma
      cellIdentityCdma := [c] }
  | .lte c => { CellIdentity.none with
      cellInfoType := .lte
      cellIdentityLte := [⟨toText c.mcc, toText c.mnc, c.ci, c.pci, c.tac, c.earfcn⟩] }
  | .tdScdma c => { CellIdentity.none with
      cellInfoType := .tdScdma
      cellIdentityTdscdma := [⟨toText c.mcc, toText c.mnc, c.lac, c.cid, c.cpid⟩] }

/-- `getCellInfoTypeRadioTechnology`; the numbers are those of `RIL_RadioTechnology`. -/
def getCellInfoTypeRadioTechnology (rat : Option Text) : CellInfoType :=
  match rat with
  | none => .none
  | some rat =>
      if atoi rat ∈ [1, 2, 16] then .gsm
      else if atoi rat ∈ [3, 9, 10, 11, 15] then .wcdma
      else if atoi rat ∈ [4, 5, 6, 7, 8, 12, 13] then .cdma
      else if atoi rat ∈ [14, 19] then .lte
      else if atoi rat = 17 then .tdScdma
      else .none

/-! ## Reading the strings -/

/-- The length of a response, in bytes. -/
def responseLen (response : Strings) : ℕ := sizeofPointer * response.length

def numStrings (response : Strings) : ℕ := responseLen response / sizeofPointer

/-- `convertResponseStringEntryToInt` -/
def convertResponseStringEntryToInt (response : Strings) (index : ℕ) : Except Fault ℤ :=
  if index < numStrings response then do
    match ← readAt response index with
    | some s => return strtol16 s
    | none => return -1
  else return -1

/-- `fillCellIdentityFromVoiceRegStateResponseString`.  What is not set has all its bits set. -/
def fillCellIdentityFromVoiceRegStateResponseString (response : Strings) :
    Except Fault CellIdentity := do
  let entry := convertResponseStringEntryToInt response
  match getCellInfoTypeRadioTechnology (← readAt response 3) with
  | .gsm => return fillCellIdentityResponse (.gsm ⟨-1, -1, ← entry 1, ← entry 2, -1, 255⟩)
  | .wcdma =>
      return fillCellIdentityResponse (.wcdma ⟨-1, -1, ← entry 1, ← entry 2, ← entry 14, -1⟩)
  | .tdScdma => return fillCellIdentityResponse (.tdScdma ⟨-1, -1, ← entry 1, ← entry 2, -1⟩)
  | .cdma =>
      let baseStationId ← entry 4
      let longitude ← entry 5
      let latitude ← entry 6
      let systemId ← entry 8
      let networkId ← entry 9
      return fillCellIdentityResponse
        (.cdma ⟨networkId, systemId, baseStationId, longitude, latitude⟩)
  | .lte =>
      let tac ← entry 1
      let ci ← entry 2
      return fillCellIdentityResponse (.lte ⟨-1, -1, ci, -1, tac, -1⟩)
  | .none => return fillCellIdentityResponse .none

/-- `fillCellIdentityFromDataRegStateResponseString` -/
def fillCellIdentityFromDataRegStateResponseString (response : Strings) :
    Except Fault CellIdentity := do
  let entry := convertResponseStringEntryToInt response
  match getCellInfoTypeRadioTechnology (← readAt response 3) with
  | .gsm => return fillCellIdentityResponse (.gsm ⟨-1, -1, ← entry 1, ← entry 2, -1, 255⟩)
  | .wcdma => return fillCellIdentityResponse (.wcdma ⟨-1, -1, ← entry 1, ← entry 2, -1, -1⟩)
  | .tdScdma => return fillCellIdentityResponse (.tdScdma ⟨-1, -1, ← entry 1, ← entry 2, -1⟩)
  | .lte =>
      let tac ← entry 6
      let pci ← entry 7
      let ci ← entry 8
      return fillCellIdentityResponse (.lte ⟨-1, -1, ci, pci, tac, -1⟩)
  -- there is no case for CDMA, whose identity stays as it is
  | .cdma => return fillCellIdentityResponse (.cdma ⟨-1, -1, -1, -1, -1⟩)
  | .none => return fillCellIdentityResponse .none

/-! ## The responses -/

/-- `VoiceRegStateResult` -/
structure VoiceRegStateResult where
  regState : ℤ
  rat : ℤ
  cssSupported : Bool
  roamingIndicator : ℤ
  systemIsInPrl : ℤ
  defaultRoamingIndicator : ℤ
  reasonForDenial : ℤ
  cellIdentity : CellIdentity
  deriving DecidableEq

/-- `DataRegStateResult` -/
structure DataRegStateResult where
  regState : ℤ
  rat : ℤ
  reasonDataDenied : ℤ
  maxDataCalls : ℤ
  cellIdentity : CellIdentity
  deriving DecidableEq

/-- `VoiceRegStateResult voiceRegResponse = {}` -/
def VoiceRegStateResult.zero : VoiceRegStateResult := ⟨0, 0, false, 0, 0, 0, 0, .none⟩

def DataRegStateResult.zero : DataRegStateResult := ⟨0, 0, 0, 0, .none⟩

/-- `(numStrings > 4) ? convert(resp[i]) : otherwise` -/
def entryIfMore (resp : Strings) (i : ℕ) (convert : Option Text → ℤ) (otherwise : ℤ) :
    Except Fault ℤ :=
  if 4 < numStrings resp then (readAt resp i).map convert else .ok otherwise

/-- What `getVoiceRegistrationStateResponse` makes of an array it accepts. -/
def voiceRegState (resp : Strings) : Except Fault VoiceRegStateResult := do
  let regState := atoiNullHandledDef (← readAt resp 0) 4
  let rat := atoiNullHandled (← readAt resp 3)
  let cssSupported ← entryIfMore resp 7 (atoiNullHandledDef · 0) 0
  let roamingIndicator ← entryIfMore resp 10 atoiNullHandled (-1)
  let systemIsInPrl ← entryIfMore resp 11 (atoiNullHandledDef · 0) 0
  let defaultRoamingIndicator ← entryIfMore resp 12 (atoiNullHandledDef · 0) 0
  let reasonForDenial ← entryIfMore resp 13 (atoiNullHandledDef · 0) 0
  let cellIdentity ← fillCellIdentityFromVoiceRegStateResponseString resp
  return ⟨regState, rat, cssSupported ≠ 0, roamingIndicator, systemIsInPrl,
    defaultRoamingIndicator, reasonForDenial, cellIdentity⟩

/-- What `getDataRegistrationStateResponse` makes of an array it accepts. -/
def dataRegState (resp : Strings) : Except Fault DataRegStateResult := do
  let regState := atoiNullHandledDef (← readAt resp 0) 4
  let rat := atoiNullHandledDef (← readAt resp 3) 0
  -- technologies of the vendor's own count as HSPAP
  let rat := if rat ≥ 128 then 15 else rat
  let reasonDataDenied ← entryIfMore resp 4 atoiNullHandled (-1)
  let maxDataCalls ← entryIfMore resp 5 (atoiNullHandledDef · 1) 1
  let cellIdentity ← fillCellIdentityFromDataRegStateResponseString resp
  return ⟨regState, rat, reasonDataDenied, maxDataCalls, cellIdentity⟩

/-- What the client is answered. -/
abbrev Answer (ρ : Type) := Option (RadioResponseInfo × ρ)

/-- A response handler for arrays of strings, which refuses a null pointer and the numbers of
strings that are not accepted. -/
def stringsResponse {ρ : Type} (accepts : ℕ → Bool) (zero : ρ) (decode : Strings → Except Fault ρ)
    (connected : Bool) (responseType serial e : ℤ) (response : Option Strings) :
    Except Fault (Answer ρ) :=
  if connected then
    let info := populateResponseInfo serial responseType e
    match response with
    | none => return some (info.invalidResponse e, zero)
    | some resp =>
        if accepts (numStrings resp) then do
          let result ← decode resp
          return some (info, result)
        else return some (info.invalidResponse e, zero)
  else return none

/-- `numStrings < 4` is refused. -/
def voiceAccepts (n : ℕ) : Bool := 4 ≤ n

/-- `(numStrings != 4) && (numStrings != 6) && (numStrings != 11)` is refused. -/
def dataAccepts (n : ℕ) : Bool := n = 4 || n = 6 || n = 11

/-- `radio::getVoiceRegistrationStateResponse`, for version 14 or lower. -/
def getVoiceRegistrationStateResponse :=
  stringsResponse voiceAccepts .zero voiceRegState

/-- `radio::getDataRegistrationStateResponse`, for version 14 or lower. -/
def getDataRegistrationStateResponse :=
  stringsResponse dataAccepts .zero dataRegState

/-! ## Reads that stay inside -/

theorem numStrings_eq (response : Strings) : numStrings response = response.length := by
  rw [numStrings, responseLen, Nat.mul_div_cancel_left _ (by decide)]

/-- The helper looks at the number of strings before it reads one. -/
theorem convertResponseStringEntryToInt_isOk (response : Strings) (index : ℕ) :
    ∃ v, convertResponseStringEntryToInt response index = .ok v := by
  unfold convertResponseStringEntryToInt
  split
  · rename_i hindex
    rw [numStrings_eq] at hindex
    obtain ⟨s, hs⟩ := readAt_isOk_iff.2 hindex
    rw [hs]
    cases s with
    | none => exact ⟨_, rfl⟩
    | some s => exact ⟨_, rfl⟩
  · exact ⟨_, rfl⟩

section CellIdentity

variable {response : Strings} (h : 4 ≤ response.length)

include h

theorem fillCellIdentityFromVoiceRegStateResponseString_isOk :
    ∃ c, fillCellIdentityFromVoiceRegStateResponseString response = .ok c := by
  obtain ⟨rat, hrat⟩ := readAt_isOk_iff.2 (show 3 < response.length by omega)
  choose entry hentry using convertResponseStringEntryToInt_isOk response
  unfold fillCellIdentityFromVoiceRegStateResponseString
  simp only [hrat, hentry, bind, Except.bind]
  cases getCellInfoTypeRadioTechnology rat <;> exact ⟨_, rfl⟩

theorem fillCellIdentityFromDataRegStateResponseString_isOk :
    ∃ c, fillCellIdentityFromDataRegStateResponseString response = .ok c := by
  obtain ⟨rat, hrat⟩ := readAt_isOk_iff.2 (show 3 < response.length by omega)
  choose entry hentry using convertResponseStringEntryToInt_isOk response
  unfold fillCellIdentityFromDataRegStateResponseString
  simp only [hrat, hentry, bind, Except.bind]
  cases getCellInfoTypeRadioTechnology rat <;> exact ⟨_, rfl⟩

end CellIdentity

/-- A string that is read when there are more than four has to be there. -/
theorem entryIfMore_isOk_iff (resp : Strings) (i : ℕ) (convert : Option Text → ℤ)
    (otherwise : ℤ) :
    (∃ v, entryIfMore resp i convert otherwise = .ok v) ↔
      (4 < resp.length → i < resp.length) := by
  unfold entryIfMore
  rw [numStrings_eq]
  split
  · rename_i hmore
    constructor
    · rintro ⟨v, hv⟩ -
      apply readAt_isOk_iff.1
      cases hget : readAt resp i with
      | error fault =>
          rw [hget] at hv
          exact absurd hv (by simp [Except.map])
      | ok s => exact ⟨s, rfl⟩
    · intro hinside
      obtain ⟨s, hs⟩ := readAt_isOk_iff.2 (hinside hmore)
      exact ⟨convert s, by rw [hs]; rfl⟩
  · rename_i hmore
    simp [hmore]

/-- **The voice registration state** is read inside of an array that is not between the two
lengths. -/
theorem voiceRegState_isOk_iff {resp : Strings} (h : 4 ≤ resp.length) :
    (∃ r, voiceRegState resp = .ok r) ↔ resp.length ≤ 4 ∨ 14 ≤ resp.length := by
  constructor
  · rintro ⟨r, hr⟩
    simp only [voiceRegState, bind_eq_ok_iff] at hr
    obtain ⟨-, -, -, -, -, -, -, -, -, -, -, -, reasonForDenial, hreason, -⟩ := hr
    have hlast := (entryIfMore_isOk_iff _ _ _ _).1 ⟨reasonForDenial, hreason⟩
    omega
  · intro hlength
    obtain ⟨s0, h0⟩ := readAt_isOk_iff.2 (show 0 < resp.length by omega)
    obtain ⟨s3, h3⟩ := readAt_isOk_iff.2 (show 3 < resp.length by omega)
    have hmore : ∀ i < 14, ∀ convert otherwise,
        ∃ v, entryIfMore resp i convert otherwise = .ok v := by
      intro i hi convert otherwise
      rw [entryIfMore_isOk_iff]
      omega
    obtain ⟨css, hcss⟩ := hmore 7 (by omega) (atoiNullHandledDef · 0) 0
    obtain ⟨roaming, hroaming⟩ := hmore 10 (by omega) atoiNullHandled (-1)
    obtain ⟨inPrl, hinPrl⟩ := hmore 11 (by omega) (atoiNullHandledDef · 0) 0
    obtain ⟨byDefault, hdefault⟩ := hmore 12 (by omega) (atoiNullHandledDef · 0) 0
    obtain ⟨denial, hdenial⟩ := hmore 13 (by omega) (atoiNullHandledDef · 0) 0
    obtain ⟨cell, hcell⟩ := fillCellIdentityFromVoiceRegStateResponseString_isOk h
    simp only [voiceRegState, h0, h3, hcss, hroaming, hinPrl, hdefault, hdenial, hcell, bind,
      Except.bind]
    exact ⟨_, rfl⟩

/-- The data registration state is read inside of every array that is accepted. -/
theorem dataRegState_isOk {resp : Strings} (h : dataAccepts resp.length) :
    ∃ r, dataRegState resp = .ok r := by
  have hlength : resp.length = 4 ∨ resp.length = 6 ∨ resp.length = 11 := by
    simpa [dataAccepts, or_assoc] using h
  obtain ⟨s0, h0⟩ := readAt_isOk_iff.2 (show 0 < resp.length by omega)
  obtain ⟨s3, h3⟩ := readAt_isOk_iff.2 (show 3 < resp.length by omega)
  obtain ⟨denied, hdenied⟩ := (entryIfMore_isOk_iff resp 4 atoiNullHandled (-1)).2 (by omega)
  obtain ⟨calls, hcalls⟩ := (entryIfMore_isOk_iff resp 5 (atoiNullHandledDef · 1) 1).2 (by omega)
  have hpast : 4 ≤ resp.length := by omega
  obtain ⟨cell, hcell⟩ := fillCellIdentityFromDataRegStateResponseString_isOk hpast
  simp only [dataRegState, h0, h3, hdenied, hcalls, hcell, bind, Except.bind]
  exact ⟨_, rfl⟩

/-! ## Main result -/

/-- How many strings a decoder reads of an array of `n`, when `more` is what it reads of one with
more than four. -/
def needed (more n : ℕ) : ℕ := if 4 < n then more else 4

/-- The handler reads inside of the array, and reports an array as invalid that is too short
for what it reads. -/
def InBounds {ρ : Type} (handler : Bool → ℤ → ℤ → ℤ → Option Strings → Except Fault (Answer ρ))
    (more : ℕ) (connected : Bool) (responseType serial e : ℤ) (response : Option Strings) : Prop :=
  ∃ answer, handler connected responseType serial e response = .ok answer ∧
    ∀ resp ∈ response, resp.length < needed more resp.length → ∀ a ∈ answer,
      a.1 = (populateResponseInfo serial responseType e).invalidResponse e

/-- A handler stays inside when its decoder does, for the arrays it accepts. -/
theorem stringsResponse_inBounds_iff {ρ : Type} {accepts : ℕ → Bool} {zero : ρ}
    {decode : Strings → Except Fault ρ} {more : ℕ} (connected : Bool)
    (responseType serial e : ℤ) (response : Option Strings)
    (hshort : ∀ resp, accepts resp.length → ∀ r, decode resp = .ok r →
      needed more resp.length ≤ resp.length) :
    InBounds (stringsResponse accepts zero decode) more connected responseType serial e response ↔
      (connected → ∀ resp ∈ response, accepts resp.length → ∃ r, decode resp = .ok r) := by
  unfold InBounds stringsResponse
  cases connected with
  | false => exact iff_of_true ⟨none, rfl, by simp⟩ (by simp)
  | true =>
      cases response with
      | none => exact iff_of_true ⟨_, rfl, by simp⟩ (by simp)
      | some resp =>
          simp only [numStrings_eq, if_true, Option.mem_def, Option.some.injEq, forall_eq',
            true_implies]
          cases haccepts : accepts resp.length with
          | false => exact iff_of_true ⟨_, rfl, by simp⟩ (by simp)
          | true =>
              simp only [if_true, true_implies]
              constructor
              · rintro ⟨answer, hanswer, -⟩
                obtain ⟨r, hr, -⟩ := bind_eq_ok_iff.1 hanswer
                exact ⟨r, hr⟩
              · rintro ⟨r, hr⟩
                refine ⟨_, by rw [hr]; rfl, fun hlt => ?_⟩
                exact absurd hlt (Nat.not_lt.2 (hshort resp haccepts r hr))

/-- The array has four strings or fewer, or all that are read of a longer one. -/
def WholeOrShort (connected : Bool) (response : Option Strings) : Prop :=
  connected → ∀ resp ∈ response, resp.length ≤ 4 ∨ 14 ≤ resp.length

/-- **Registration states are read inside of their arrays**: always for the data registration,
and for the voice registration exactly when there are not between five and thirteen strings. -/
theorem registrationState_inBounds_iff (connected : Bool) (responseType serial e : ℤ)
    (response : Option Strings) :
    (InBounds getVoiceRegistrationStateResponse 14 connected responseType serial e response ↔
      WholeOrShort connected response) ∧
    InBounds getDataRegistrationStateResponse 6 connected responseType serial e response := by
  constructor
  · unfold getVoiceRegistrationStateResponse WholeOrShort
    rw [stringsResponse_inBounds_iff]
    · apply imp_congr_right
      intro _
      apply forall₂_congr
      intro resp _
      by_cases hfour : 4 ≤ resp.length
      · simp [voiceAccepts, hfour, voiceRegState_isOk_iff hfour]
      · simp only [voiceAccepts, hfour, decide_false, Bool.false_eq_true, false_implies, true_iff]
        omega
    · intro resp haccepts r hr
      have hfour : 4 ≤ resp.length := of_decide_eq_true haccepts
      have := (voiceRegState_isOk_iff hfour).1 ⟨r, hr⟩
      unfold needed
      split <;> omega
  · unfold getDataRegistrationStateResponse
    rw [stringsResponse_inBounds_iff]
    · intro _ resp _ haccepts
      exact dataRegState_isOk haccepts
    · intro resp haccepts r hr
      have hlength : resp.length = 4 ∨ resp.length = 6 ∨ resp.length = 11 := by
        simpa [dataAccepts, or_assoc] using haccepts
      unfold needed
      split <;> omega

/-- Of an array of five strings the fourteenth is read. -/
theorem fiveStrings_not_inBounds :
    ¬ ∀ (connected : Bool) (responseType serial e : ℤ) (response : Option Strings),
      InBounds getVoiceRegistrationStateResponse 14 connected responseType serial e response ∧
      InBounds getDataRegistrationStateResponse 6 connected responseType serial e response := by
  intro hall
  obtain ⟨⟨answer, hanswer, -⟩, -⟩ := hall true 0 1 0
    (some [some "1".toList, some "1A2B".toList, some "0C".toList, some "3".toList, none])
  have herror : getVoiceRegistrationStateResponse true 0 1 0
      (some [some "1".toList, some "1A2B".toList, some "0C".toList, some "3".toList, none]) =
        .error .read := by decide
  rw [herror] at hanswer
  exact absurd hanswer (by simp)

end Radio.RegState
