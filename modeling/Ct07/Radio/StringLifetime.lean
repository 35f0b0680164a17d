/-
# Strings that outlive their storage

The client reads the strings of a reply in its callback.  A string of the vendor's record is
there until the handler returns; an array of an inner scope, a local record of a function that
has returned and a block that has been freed are not.

* `setupDataCall_intact_iff`, `getDataCallList_intact_iff`, `dataCallListChanged_intact_iff` :
  when the strings of data calls can be read;
* `strings_intact_iff` : the same for every handler whose result is looked at here.
-/
import Ct07.Radio.DataCallResult
import Ct07.Radio.IccIo
import Ct07.Radio.Capability

open ScopedStorage

namespace Radio.DataCallResult

/-! ## Data calls -/

/-- The vendor's interface name is rewritten. -/
def Mapped (access : Text → Bool) (r : RilDataCallResponse) : Prop :=
  ∃ vif ∈ r.ifname, isCcemni vif = true ∧ access (sysClassNet 64 (mappedIfname vif)) = true

/-- Every string of the result can be read. -/
def Result.Intact (m : Store Block Text) (r : Result) : Prop := ∀ v ∈ r.strings, v.Valid m

section Conversions

variable (access : Text → Bool) (calls : ℕ → RilDataCallResponse)

/-- A string of the vendor's record can be read. -/
theorem vendor_valid (i : ℕ) (f : Field) :
    (convertCharPtrToHidlString (.vendor i f) ((calls i).string f)).Valid (vendorStore calls) := by
  rw [convertCharPtrToHidlString_valid]
  intro s hs
  exact hs

theorem convertIfname_valid_iff (i : ℕ) (m : Store Block Text) :
    (convertIfname access i (calls i).ifname m).1.Valid (vendorStore calls) ↔
      ¬ Mapped access (calls i) := by
  have hvendor := vendor_valid calls i .ifname
  unfold RilDataCallResponse.string at hvendor
  simp only at hvendor
  unfold convertIfname Mapped
  cases hifname : (calls i).ifname with
  | none => simpa [hifname] using hvendor
  | some vif =>
      rw [hifname] at hvendor
      cases hccemni : isCcemni vif with
      | false => simpa [hccemni] using hvendor
      | true =>
          cases hexists : access (sysClassNet 64 (mappedIfname vif)) with
          | false => simpa [hccemni, hexists] using hvendor
          | true =>
              -- the array is gone, and the string refers to it
              have hdangles := convertCharPtrToHidlString_dangles (m := vendorStore calls)
                (.converted i) (mappedIfname vif) rfl
              simpa [hccemni, hexists] using hdangles

/-- A converted record can be read exactly when its interface name is the vendor's. -/
theorem convertRilDataCallToHal_intact_iff (i : ℕ) (m : Store Block Text) :
    (convertRilDataCallToHal access i (calls i) m).1.Intact (vendorStore calls) ↔
      ¬ Mapped access (calls i) := by
  rw [← convertIfname_valid_iff access calls i m]
  unfold Result.Intact SetupDataCallResult.strings convertRilDataCallToHal
  simp [vendor_valid calls i]

theorem convertRilDataCallListToHal_intact_iff (num : ℕ) (m : Store Block Text) :
    (∀ r ∈ (convertRilDataCallListToHal access calls num m).1, r.Intact (vendorStore calls)) ↔
      ∀ i < num, ¬ Mapped access (calls i) := by
  induction num with
  | zero => simp [convertRilDataCallListToHal]
  | succ num ih =>
      rw [convertRilDataCallListToHal_succ, Nat.forall_lt_succ_right, ← ih]
      simp only [List.mem_append, List.mem_singleton, or_imp, forall_and, forall_eq,
        convertRilDataCallToHal_intact_iff]

/-- A set-up can be read exactly when neither the id of the call nor the vendor's name has led
to an interface. -/
theorem nameByCid_intact_iff (m : Store Block Text) :
    (nameByCid access (convertRilDataCallToHal access 0 (calls 0) m).1 m).1.Intact
        (vendorStore calls) ↔
      access (sysClassNet 80 (ccmni (calls 0).cid)) = false ∧ ¬ Mapped access (calls 0) := by
  unfold nameByCid
  have hcid : (convertRilDataCallToHal access 0 (calls 0) m).1.cid = (calls 0).cid := rfl
  rw [hcid]
  cases hexists : access (sysClassNet 80 (ccmni (calls 0).cid)) with
  | false =>
      simp only [hexists, Bool.false_eq_true, if_false, true_and]
      exact convertRilDataCallToHal_intact_iff access calls 0 m
  | true =>
      simp only [hexists, if_true, Bool.true_eq_false, false_and, iff_false]
      intro h
      have hifname := h _ (List.mem_cons_of_mem _ List.mem_cons_self)
      exact convertCharPtrToHidlString_dangles _ _ rfl hifname

end Conversions

section Handlers

variable (access : Text → Bool) (connected : Bool)

/-- Every string of the answer to a set-up can be read. -/
def SetupIntact (responseType serial e : ℤ) (response : Option RilDataCallResponse)
    (responseLen : ℕ) : Prop :=
  ∀ callback ∈ setupDataCallResponse access connected responseType serial e response responseLen,
    callback.result.Intact callback.store

/-- A record that is accepted is shown with the vendor's interface name. -/
def SetupKeeps (response : Option RilDataCallResponse) (responseLen : ℕ) : Prop :=
  connected = true → sizeofRecord ≤ responseLen → ∀ r ∈ response,
    access (sysClassNet 80 (ccmni r.cid)) = false ∧ ¬ Mapped access r

/-- Every record of a list that is accepted is shown with the vendor's interface name. -/
def ListKeeps (response : Option (ℕ → RilDataCallResponse)) (responseLen : ℕ) : Prop :=
  connected = true → responseLen % sizeofRecord = 0 → ∀ calls ∈ response,
    ∀ i < responseLen / sizeofRecord, ¬ Mapped access (calls i)

theorem zeroResult_intact (m : Store Block Text) (status : ℤ) :
    Result.Intact m { zeroResult with status := status } := by
  intro v hv
  simp only [SetupDataCallResult.strings, zeroResult, List.mem_cons, List.not_mem_nil, or_false,
    or_self] at hv
  rw [hv]
  exact HidlString.empty_valid m

theorem setupDataCall_intact_iff (responseType serial e : ℤ)
    (response : Option RilDataCallResponse) (responseLen : ℕ) :
    SetupIntact access connected responseType serial e response responseLen ↔
      SetupKeeps access connected response responseLen := by
  unfold SetupIntact SetupKeeps
  cases connected with
  | false => simp [setupDataCallResponse]
  | true =>
      cases response with
      | none => simp [setupDataCallResponse, zeroResult_intact]
      | some r =>
          by_cases hlen : sizeofRecord ≤ responseLen
          · rw [setupDataCallResponse_accepted access responseType serial e r hlen]
            have hm : vendorStore (fun _ => r) (.converted 0) = none := rfl
            simp only [convertRilDataCallToHal_store access 0 r hm, Option.mem_def,
              Option.some.injEq, forall_eq', true_implies, hlen]
            rw [← nameByCid_intact_iff access (fun _ => r) (vendorStore fun _ => r)]
            have hstore : (nameByCid access (convertRilDataCallToHal access 0 r
                (vendorStore fun _ => r)).1 (vendorStore fun _ => r)).2 =
                vendorStore fun _ => r := by
              unfold nameByCid
              simp only
              split <;> exact Store.leave_enter _ _ rfl
            rw [hstore]
          · have hshort : responseLen < sizeofRecord := Nat.not_le.1 hlen
            simp [setupDataCallResponse, hshort, hlen, zeroResult_intact]

theorem getDataCallList_intact_iff (responseType serial e : ℤ)
    (response : Option (ℕ → RilDataCallResponse)) (responseLen : ℕ) :
    (∀ callback ∈ getDataCallListResponse access connected responseType serial e response
        responseLen, ∀ r ∈ callback.result, r.Intact callback.store) ↔
      ListKeeps access connected response responseLen := by
  unfold ListKeeps
  cases connected with
  | false => simp [getDataCallListResponse]
  | true =>
      cases response with
      | none => simp [getDataCallListResponse]
      | some calls =>
          by_cases hlen : responseLen % sizeofRecord = 0
          · rw [getDataCallListResponse_accepted access responseType serial e calls hlen]
            have hm : ∀ i, vendorStore calls (.converted i) = none := fun _ => rfl
            simp only [convertRilDataCallListToHal_store access calls _ hm, Option.mem_def,
              Option.some.injEq, forall_eq', true_implies, hlen]
            exact convertRilDataCallListToHal_intact_iff access calls _ _
          · simp [getDataCallListResponse, hlen]

theorem dataCallListChanged_intact_iff (indicationType : ℤ)
    (response : Option (ℕ → RilDataCallResponse)) (responseLen : ℕ) :
    (∀ callback ∈ dataCallListChangedInd access connected indicationType response responseLen,
        ∀ r ∈ callback.result, r.Intact callback.store) ↔
      ListKeeps access connected response responseLen := by
  unfold ListKeeps
  cases connected with
  | false => simp [dataCallListChangedInd]
  | true =>
      by_cases hlen : responseLen % sizeofRecord = 0
      · cases response with
        | none =>
            by_cases hzero : responseLen = 0 <;> simp [dataCallListChangedInd, hlen, hzero]
        | some calls =>
            rw [dataCallListChangedInd_accepted access indicationType calls hlen]
            have hm : ∀ i, vendorStore calls (.converted i) = none := fun _ => rfl
            simp only [convertRilDataCallListToHal_store access calls _ hm, Option.mem_def,
              Option.some.injEq, forall_eq', true_implies, hlen]
            exact convertRilDataCallListToHal_intact_iff access calls _ _
      · simp [dataCallListChangedInd, hlen]

end Handlers

end Radio.DataCallResult

namespace Radio

/-! ## All handlers -/

/-- The handlers whose results are looked at, with all that they read. -/
inductive StringHandler where
  | setupDataCallResponse (access : Text → Bool) (connected : Bool) (responseType serial e : ℤ)
      (response : Option DataCallResult.RilDataCallResponse) (responseLen : ℕ)
  | getDataCallListResponse (access : Text → Bool) (connected : Bool)
      (responseType serial e : ℤ) (response : Option (ℕ → DataCallResult.RilDataCallResponse))
      (responseLen : ℕ)
  | dataCallListChangedInd (access : Text → Bool) (connected : Bool) (indicationType : ℤ)
      (response : Option (ℕ → DataCallResult.RilDataCallResponse)) (responseLen : ℕ)
  | iccIo (method : IccIo.Method) (gate : Text) (malloc connected : Bool)
      (responseType serial e : ℤ) (response : Option IccIo.RilSimIoResponse) (responseLen : ℕ)
  | getRadioCapabilityResponse (env : Capability.Env) (slotId : ℕ) (connected : Bool)
      (responseType serial e : ℤ) (response : Option Capability.RilRadioCapability)
      (responseLen : ℕ) (meanwhile : Option Capability.RilRadioCapability)

/-- Every string that the handler passes to the client can be read in the callback. -/
def StringHandler.Intact : StringHandler → Prop
  | .setupDataCallResponse access connected responseType serial e response responseLen =>
      DataCallResult.SetupIntact access connected responseType serial e response responseLen
  | .getDataCallListResponse access connected responseType serial e response responseLen =>
      ∀ callback ∈ DataCallResult.getDataCallListResponse access connected responseType serial e
        response responseLen, ∀ r ∈ callback.result, r.Intact callback.store
  | .dataCallListChangedInd access connected indicationType response responseLen =>
      ∀ callback ∈ DataCallResult.dataCallListChangedInd access connected indicationType response
        responseLen, ∀ r ∈ callback.result, r.Intact callback.store
  | .iccIo method gate malloc connected responseType serial e response responseLen =>
      IccIo.Intact method gate malloc connected responseType serial e response responseLen
  | .getRadioCapabilityResponse env slotId connected responseType serial e response responseLen
      meanwhile =>
      Capability.Intact env slotId connected responseType serial e response responseLen meanwhile

/-- No string of the result is made from storage of an inner scope: no interface name is
rewritten, no SIM response translated, no capability replaced by the default, and an indicated
one is not overwritten in the meantime. -/
def StringHandler.KeepsStorage : StringHandler → Prop
  | .setupDataCallResponse access connected _ _ _ response responseLen =>
      DataCallResult.SetupKeeps access connected response responseLen
  | .getDataCallListResponse access connected _ _ _ response responseLen =>
      DataCallResult.ListKeeps access connected response responseLen
  | .dataCallListChangedInd access connected _ response responseLen =>
      DataCallResult.ListKeeps access connected response responseLen
  | .iccIo _ gate malloc connected _ _ _ response responseLen =>
      IccIo.KeepsStorage gate malloc connected response responseLen
  | .getRadioCapabilityResponse env slotId connected _ _ _ response responseLen meanwhile =>
      Capability.KeepsStorage env slotId connected response responseLen meanwhile

/-- **String lifetime.**  Whatever the vendor answers, whichever interfaces exist and however the
gate is set, the client can read all strings of the result exactly when none of them is made
from storage of an inner scope. -/
theorem strings_intact_iff (h : StringHandler) : h.Intact ↔ h.KeepsStorage := by
  cases h with
  | setupDataCallResponse access connected responseType serial e response responseLen =>
      exact DataCallResult.setupDataCall_intact_iff access connected responseType serial e response
        responseLen
  | getDataCallListResponse access connected responseType serial e response responseLen =>
      exact DataCallResult.getDataCallList_intact_iff access connected responseType serial e
        response responseLen
  | dataCallListChangedInd access connected indicationType response responseLen =>
      exact DataCallResult.dataCallListChanged_intact_iff access connected indicationType response
        responseLen
  | iccIo method gate malloc connected responseType serial e response responseLen =>
      exact IccIo.iccIo_intact_iff method gate malloc connected responseType serial e response
        responseLen
  | getRadioCapabilityResponse env slotId connected responseType serial e response responseLen
      meanwhile =>
      exact Capability.getRadioCapabilityResponse_intact_iff env slotId connected responseType
        serial e response responseLen meanwhile

/-- The set-up of a call with id 0, where `ccmni0` exists: the client is given the array
`mapped`, whose scope has ended. -/
theorem setup_string_dangles : ¬ ∀ h : StringHandler, h.Intact := by
  intro h
  have hsetup := h (.setupDataCallResponse (fun _ => true) true 0 1 rilESuccess
    (some DataCallResult.unnamedCall) DataCallResult.sizeofRecord)
  have hkeeps := (DataCallResult.setupDataCall_intact_iff _ _ _ _ _ _ _).1 hsetup
  exact absurd (hkeeps rfl (Nat.le_refl _) _ rfl).1 (by decide)

end Radio
