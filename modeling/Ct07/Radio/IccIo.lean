/-
# SIM input and output (`responseIccIo`, `ril_service.cpp`)

Five handlers answer with the status words and the response string of a SIM command.  They all
convert it in one place, which translates a string that `mtkFcpToLegacy` takes for an FCP
template, and frees the translation when the string refers to it.

* `responseIccIo_eq` : what is answered to a response that is accepted;
* `iccIo_intact_iff` : when the client can read the string.
-/
import Ct07.Radio.Fcp

open ScopedStorage Radio.Fcp

namespace Radio.IccIo

/-! ## Records and results -/

/-- `RIL_SIM_IO_Response` -/
structure RilSimIoResponse where
  sw1 : ℤ
  sw2 : ℤ
  simResponse : Option Text
  deriving DecidableEq

/-- The size of the record on the 32-bit target: three words. -/
def sizeofRecord : ℕ := 12

/-- `IccIoResult`, with a string of type `σ`. -/
structure IccIoResult (σ : Type*) where
  sw1 : ℤ
  sw2 : ℤ
  simResponse : σ
  deriving DecidableEq

/-- The storage that the string of a result can refer to. -/
inductive Block where
  /-- the string of the vendor's record -/
  | vendor
  /-- the translation -/
  | mtkLegacy
  deriving DecidableEq

abbrev Result := IccIoResult (HidlString Block)

/-- The storage when a handler is called. -/
def vendorStore (response : Option RilSimIoResponse) : Store Block Text
  | .vendor => response.bind (·.simResponse)
  | .mtkLegacy => none

/-! ## Operations -/

/-- `responseIccIo`; `none` stands for a translation that does not return. -/
def responseIccIo (gate : Text) (malloc : Bool) (responseType serial e : ℤ)
    (response : Option RilSimIoResponse) (responseLen : ℕ) (m : Store Block Text) :
    Option (RadioResponseInfo × Result × Store Block Text) := do
  let info := populateResponseInfo serial responseType e
  match if responseLen = sizeofRecord then response else none with
  | none => return (info.invalidResponse e, ⟨0, 0, .empty⟩, m)
  | some resp =>
      match ← mtkFcpToLegacy gate malloc resp.simResponse with
      | some mtkLegacy =>
          let m := m.enter .mtkLegacy mtkLegacy
          let simResponse := convertCharPtrToHidlString .mtkLegacy (some mtkLegacy)
          return (info, ⟨resp.sw1, resp.sw2, simResponse⟩, m.leave .mtkLegacy)
      | none =>
          return (info,
            ⟨resp.sw1, resp.sw2, convertCharPtrToHidlString .vendor resp.simResponse⟩, m)

/-- The methods of the client that are called with the result. -/
inductive Method where
  | iccIOForAppResponse
  | sendEnvelopeWithStatusResponse
  | iccTransmitApduBasicChannelResponse
  | iccTransmitApduLogicalChannelResponse
  | requestIccSimAuthenticationResponse
  deriving DecidableEq, Repr

/-- A handler; inside, `none` when the client is not `connected`. -/
def handler (method : Method) (gate : Text) (malloc connected : Bool) (responseType serial e : ℤ)
    (response : Option RilSimIoResponse) (responseLen : ℕ) :
    Option (Option (Callback (Method × RadioResponseInfo) Result Block)) :=
  if connected then do
    let (info, result, m) ← responseIccIo gate malloc responseType serial e response responseLen
      (vendorStore response)
    return some ⟨(method, info), result, m⟩
  else some none

def iccIOForAppResponse := handler .iccIOForAppResponse

def sendEnvelopeWithStatusResponse := handler .sendEnvelopeWithStatusResponse

def iccTransmitApduBasicChannelResponse := handler .iccTransmitApduBasicChannelResponse

def iccTransmitApduLogicalChannelResponse := handler .iccTransmitApduLogicalChannelResponse

def requestIccSimAuthenticationResponse := handler .requestIccSimAuthenticationResponse

/-! ## What is answered -/

/-- The string of an answer, given what `mtkFcpToLegacy` returned. -/
def answeredString (resp : RilSimIoResponse) : Option Text → HidlString Block
  | some mtkLegacy => convertCharPtrToHidlString .mtkLegacy (some mtkLegacy)
  | none => convertCharPtrToHidlString .vendor resp.simResponse

section Answers

variable (gate : Text) (malloc : Bool) (responseType serial e : ℤ)

/-- A response that is missing, or not of the size of the record, is refused. -/
theorem responseIccIo_refused {response : Option RilSimIoResponse} {responseLen : ℕ}
    (h : response = none ∨ responseLen ≠ sizeofRecord) (m : Store Block Text) :
    responseIccIo gate malloc responseType serial e response responseLen m =
      some ((populateResponseInfo serial responseType e).invalidResponse e, ⟨0, 0, .empty⟩, m) := by
  have hnone : (if responseLen = sizeofRecord then response else none) = none := by
    rcases h with rfl | h
    · simp
    · exact if_neg h
  unfold responseIccIo
  rw [hnone]
  rfl

/-- A response that is accepted is answered with its translation, or as it is. -/
theorem responseIccIo_eq (resp : RilSimIoResponse) {legacy : Option Text}
    (hlegacy : mtkFcpToLegacy gate malloc resp.simResponse = some legacy) {m : Store Block Text}
    (hm : m .mtkLegacy = none) :
    responseIccIo gate malloc responseType serial e (some resp) sizeofRecord m =
      some (populateResponseInfo serial responseType e,
        ⟨resp.sw1, resp.sw2, answeredString resp legacy⟩, m) := by
  unfold responseIccIo
  simp only [if_true, hlegacy, Option.bind_eq_bind, Option.bind_some]
  cases legacy with
  | none => rfl
  | some mtkLegacy =>
      simp only [Store.leave_enter m _ hm]
      rfl

end Answers

/-! ## The string of the answer -/

/-- The handler returns, and the client can read the string. -/
def Intact (method : Method) (gate : Text) (malloc connected : Bool) (responseType serial e : ℤ)
    (response : Option RilSimIoResponse) (responseLen : ℕ) : Prop :=
  ∃ answer, handler method gate malloc connected responseType serial e response responseLen
      = some answer ∧
    ∀ callback ∈ answer, callback.result.simResponse.Valid callback.store

/-- A response that is accepted is not translated. -/
def KeepsStorage (gate : Text) (malloc connected : Bool) (response : Option RilSimIoResponse)
    (responseLen : ℕ) : Prop :=
  connected = true → responseLen = sizeofRecord →
    ∀ resp ∈ response, mtkFcpToLegacy gate malloc resp.simResponse = some none

/-- **The string of a SIM command.**  The client can read it exactly when it is not a
translation. -/
theorem iccIo_intact_iff (method : Method) (gate : Text) (malloc connected : Bool)
    (responseType serial e : ℤ) (response : Option RilSimIoResponse) (responseLen : ℕ) :
    Intact method gate malloc connected responseType serial e response responseLen ↔
      KeepsStorage gate malloc connected response responseLen := by
  unfold Intact KeepsStorage handler
  cases connected with
  | false => simp
  | true =>
      by_cases haccepted : response = none ∨ responseLen ≠ sizeofRecord
      · rw [responseIccIo_refused gate malloc responseType serial e haccepted]
        have hvacuous : responseLen = sizeofRecord →
            ∀ resp ∈ response, mtkFcpToLegacy gate malloc resp.simResponse = some none := by
          rintro hlen resp hresp
          rcases haccepted with rfl | hne
          · exact absurd hresp (by simp)
          · exact absurd hlen hne
        simp only [true_implies]
        exact iff_of_true ⟨_, rfl, by simp [HidlString.empty_valid]⟩ hvacuous
      · obtain ⟨hresponse, hlen⟩ := not_or.1 haccepted
        obtain ⟨resp, rfl⟩ := Option.ne_none_iff_exists'.1 hresponse
        obtain rfl := not_ne_iff.1 hlen
        obtain ⟨legacy, hlegacy⟩ := mtkFcpToLegacy_total gate malloc resp.simResponse
        have hm : vendorStore (some resp) .mtkLegacy = none := rfl
        rw [responseIccIo_eq gate malloc responseType serial e resp hlegacy hm]
        cases legacy with
        | none => simp [hlegacy, answeredString, convertCharPtrToHidlString_valid, vendorStore]
        | some mtkLegacy =>
            have hdangles := convertCharPtrToHidlString_dangles Block.mtkLegacy mtkLegacy hm
            simpa [hlegacy, answeredString] using hdangles

end Radio.IccIo
