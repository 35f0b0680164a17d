/-
# Radio capabilities (`ril_service.cpp`)

The vendor's answer to a request for the radio capability may be unusable.  It is replaced by
the capability that the modem last indicated for the slot, which is kept in a static record,
or, before any indication, by a default.

* `responseRadioCapability_usable`, `responseRadioCapability_substituted` : what is answered;
* `getRadioCapabilityResponse_intact_iff` : when the client can read the string of the answer.
-/
import Ct07.Radio.Reply
import Mathlib.Data.Option.Basic

open ScopedStorage

namespace Radio.Capability

/-! ## Records and results -/

/-- `RIL_RadioCapability` -/
structure RilRadioCapability where
  version : ℤ
  session : ℤ
  phase : ℤ
  rat : ℤ
  logicalModemUuid : Text
  status : ℤ
  deriving DecidableEq

/-- The size of the record on the 32-bit target: five words and 64 bytes. -/
def sizeofRecord : ℕ := 84

/-- `RadioCapability`, with a string of type `σ`. -/
structure RadioCapability (σ : Type*) where
  session : ℤ
  phase : ℤ
  raf : ℤ
  logicalModemUuid : σ
  status : ℤ
  deriving DecidableEq

/-- The storage that the string of a result can refer to. -/
inductive Block where
  /-- the array of the vendor's record -/
  | vendor
  /-- the array of the local record `fallback` -/
  | fallback
  /-- the array of `s_lastRadioCapability`, for the slot of the answer -/
  | last
  deriving DecidableEq

abbrev Result := RadioCapability (HidlString Block)

/-! ## Operations -/

/-- `convertRilRadioCapabilityToHal`, for the record with its array at `b`. -/
def convertRilRadioCapabilityToHal (b : Block) (r : RilRadioCapability) : Result :=
  ⟨r.session, r.phase, r.rat, convertCharPtrToHidlString b (some r.logicalModemUuid), r.status⟩

/-- `RAF_GSM` -/
def rafGsm : ℤ := 65536

/-- `RAF_GSM | RAF_UMTS | RAF_LTE` -/
def rafGsmUmtsLte : ℤ := 65536 + 8 + 16384

/-- `defaultRadioCapability`; `simswitch` is `persist.radio.simswitch`, empty when it is not
set. -/
def defaultRadioCapability (simswitch : Text) (slotId : ℕ) : RilRadioCapability :=
  let majorSlot := atoi (if simswitch = [] then "1".toList else simswitch) - 1
  ⟨1, 0, 0, if (slotId : ℤ) = majorSlot then rafGsmUmtsLte else rafGsm, [], 0⟩

/-- `RadioCapability result = {}` -/
def zeroResult : Result := ⟨0, 0, 0, .empty, 0⟩

/-- What `responseRadioCapability` reads beside its arguments. -/
structure Env where
  simCount : ℕ
  simswitch : Text
  /-- `s_lastRadioCapability` of the slot, `none` while `s_lastRadioCapabilityValid` is unset -/
  last : Option RilRadioCapability

/-- The storage when a handler is called. -/
def vendorStore (env : Env) (response : Option RilRadioCapability) : Store Block Text
  | .vendor => response.map (·.logicalModemUuid)
  | .fallback => none
  | .last => env.last.map (·.logicalModemUuid)

/-- The vendor's answer, if it is there and long enough. -/
def usable (response : Option RilRadioCapability) (responseLen : ℕ) : Option RilRadioCapability :=
  if responseLen < sizeofRecord then none else response

/-- `responseRadioCapability` -/
def responseRadioCapability (env : Env) (slotId : ℕ) (responseType serial e : ℤ)
    (response : Option RilRadioCapability) (responseLen : ℕ) (substitute : Bool)
    (m : Store Block Text) : RadioResponseInfo × Result × Store Block Text :=
  let info := populateResponseInfo serial responseType e
  match usable response responseLen with
  | none =>
      if substitute && slotId < env.simCount then
        -- the scope of `fallback`
        match env.last with
        | some last =>
            let m := m.enter .fallback []
            ({ info with error := radioErrorNone }, convertRilRadioCapabilityToHal .last last,
              m.leave .fallback)
        | none =>
            let fallback := defaultRadioCapability env.simswitch slotId
            let m := m.enter .fallback fallback.logicalModemUuid
            ({ info with error := radioErrorNone },
              convertRilRadioCapabilityToHal .fallback fallback, m.leave .fallback)
      else (info.invalidResponse e, zeroResult, m)
  | some r => (info, convertRilRadioCapabilityToHal .vendor r, m)

/-- An indication for the slot is stored by another thread: `radioCapabilityIndicationInd`. -/
def remember (m : Store Block Text) : Option RilRadioCapability → Store Block Text
  | none => m
  | some r => (m.enter .last r.logicalModemUuid)

/-- `radio::getRadioCapabilityResponse`; `meanwhile` is the last indication that is stored for
the slot between the conversion and the client's callback, if any. -/
def getRadioCapabilityResponse (env : Env) (slotId : ℕ) (connected : Bool)
    (responseType serial e : ℤ) (response : Option RilRadioCapability) (responseLen : ℕ)
    (meanwhile : Option RilRadioCapability) : Option (Callback RadioResponseInfo Result Block) :=
  if connected then
    let (info, result, m) := responseRadioCapability env slotId responseType serial e response
      responseLen true (vendorStore env response)
    some ⟨info, result, remember m meanwhile⟩
  else none

/-! ## What is answered -/

section Answers

variable (env : Env) (slotId : ℕ) (responseType serial e : ℤ) (substitute : Bool)
  (m : Store Block Text)

variable {response : Option RilRadioCapability} {responseLen : ℕ}

/-- A usable answer is passed on. -/
theorem responseRadioCapability_usable {r : RilRadioCapability}
    (h : usable response responseLen = some r) :
    responseRadioCapability env slotId responseType serial e response responseLen substitute m =
      (populateResponseInfo serial responseType e, convertRilRadioCapabilityToHal .vendor r,
        m) := by
  unfold responseRadioCapability
  rw [h]

/-- An unusable answer for a slot is replaced, without an error. -/
theorem responseRadioCapability_substituted (h : usable response responseLen = none)
    (hslot : slotId < env.simCount) (hm : m .fallback = none) :
    responseRadioCapability env slotId responseType serial e response responseLen true m =
      ({ populateResponseInfo serial responseType e with error := radioErrorNone },
        match env.last with
        | some last => convertRilRadioCapabilityToHal .last last
        | none => convertRilRadioCapabilityToHal .fallback
            (defaultRadioCapability env.simswitch slotId), m) := by
  unfold responseRadioCapability
  rw [h]
  simp only [hslot, decide_true, Bool.and_true, if_true]
  cases env.last with
  | none => simp only [Store.leave_enter m _ hm]
  | some last => simp only [Store.leave_enter m _ hm]

/-- An unusable answer for a number that is no slot's is refused. -/
theorem responseRadioCapability_refused (h : usable response responseLen = none)
    (hslot : ¬ slotId < env.simCount) :
    responseRadioCapability env slotId responseType serial e response responseLen substitute m =
      ((populateResponseInfo serial responseType e).invalidResponse e, zeroResult, m) := by
  unfold responseRadioCapability
  rw [h]
  simp [hslot]

end Answers

/-! ## The string of the answer -/

/-- The client can read the string. -/
def Intact (env : Env) (slotId : ℕ) (connected : Bool) (responseType serial e : ℤ)
    (response : Option RilRadioCapability) (responseLen : ℕ)
    (meanwhile : Option RilRadioCapability) : Prop :=
  ∀ callback ∈ getRadioCapabilityResponse env slotId connected responseType serial e response
    responseLen meanwhile, callback.result.logicalModemUuid.Valid callback.store

/-- An answer that is replaced is replaced by an indication, which another one with a different
string does not overwrite in the meantime. -/
def KeepsStorage (env : Env) (slotId : ℕ) (connected : Bool)
    (response : Option RilRadioCapability) (responseLen : ℕ)
    (meanwhile : Option RilRadioCapability) : Prop :=
  connected = true → usable response responseLen = none → slotId < env.simCount →
    ∃ last, env.last = some last ∧
      ∀ r ∈ meanwhile, r.logicalModemUuid = last.logicalModemUuid

/-- The storage that other threads do not touch. -/
theorem remember_of_ne (m : Store Block Text) (meanwhile : Option RilRadioCapability) {b : Block}
    (hb : b ≠ .last) : remember m meanwhile b = m b := by
  cases meanwhile with
  | none => rfl
  | some r => exact Store.enter_of_ne m _ hb

/-- **The string of a radio capability.**  The client can read it exactly when the answer is the
vendor's own, or refused, or an indication that stays as it is. -/
theorem getRadioCapabilityResponse_intact_iff (env : Env) (slotId : ℕ) (connected : Bool)
    (responseType serial e : ℤ) (response : Option RilRadioCapability) (responseLen : ℕ)
    (meanwhile : Option RilRadioCapability) :
    Intact env slotId connected responseType serial e response responseLen meanwhile ↔
      KeepsStorage env slotId connected response responseLen meanwhile := by
  unfold Intact KeepsStorage getRadioCapabilityResponse
  cases connected with
  | false => simp
  | true =>
      simp only [if_true, Option.mem_def, Option.some.injEq, forall_eq', true_implies]
      cases husable : usable response responseLen with
      | some r =>
          have hresponse : response = some r := by
            unfold usable at husable
            split at husable
            · exact absurd husable (by simp)
            · exact husable
          rw [responseRadioCapability_usable env slotId responseType serial e true _ husable]
          simp [convertRilRadioCapabilityToHal, convertCharPtrToHidlString_valid,
            remember_of_ne, vendorStore, hresponse]
      | none =>
          by_cases hslot : slotId < env.simCount
          · rw [responseRadioCapability_substituted env slotId responseType serial e _ husable
              hslot rfl]
            cases hlast : env.last with
            | none =>
                -- the string refers to `fallback`, a local record
                have hgone : remember (vendorStore env response) meanwhile .fallback = none :=
                  remember_of_ne _ meanwhile (by simp)
                have hdangles := convertCharPtrToHidlString_dangles Block.fallback
                  (defaultRadioCapability env.simswitch slotId).logicalModemUuid hgone
                simpa [convertRilRadioCapabilityToHal, hslot] using hdangles
            | some last =>
                cases meanwhile with
                | none =>
                    simp [convertRilRadioCapabilityToHal, convertCharPtrToHidlString_valid,
                      remember, vendorStore, hlast]
                | some r =>
                    simp [convertRilRadioCapabilityToHal, convertCharPtrToHidlString_valid,
                      remember, hslot]
          · rw [responseRadioCapability_refused env slotId responseType serial e true _ husable
              hslot]
            simp [zeroResult, HidlString.empty_valid, hslot]

end Radio.Capability
