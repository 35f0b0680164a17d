/-
# Data calls as the client sees them (`ril_service.cpp`)

A record of the vendor is converted in one place, `convertRilDataCallToHal`, which rewrites an
interface name with the prefix `ccemni`.  `setupDataCallResponse` replaces the name after that by
the one that belongs to the id of the call, when there is such an interface; the two handlers
of lists do not.

* `convertRilDataCallListToHal_texts` : the texts of a converted list, record by record;
* `setupDataCall_sameView_iff` : when a set-up and a list show a record alike;
* `dataCallList_agree_iff` : when the two handlers of lists agree.

What `setupDataCallResponse` does to the interface itself is left out.
-/
import Ct07.Radio.Reply

open ScopedStorage

namespace Radio.DataCallResult

/-! ## Records and results -/

/-- The strings of a data call. -/
inductive Field where
  | type
  | ifname
  | addresses
  | dnses
  | gateways
  | pcscf
  deriving DecidableEq, Repr

/-- `RIL_Data_Call_Response_v11`; a string is `none` when its pointer is null. -/
structure RilDataCallResponse where
  status : ℤ
  suggestedRetryTime : ℤ
  cid : ℤ
  active : ℤ
  type : Option Text
  ifname : Option Text
  addresses : Option Text
  dnses : Option Text
  gateways : Option Text
  pcscf : Option Text
  mtu : ℤ
  deriving DecidableEq

/-- The size of the record on the 32-bit target: eleven words. -/
def sizeofRecord : ℕ := 44

/-- `SetupDataCallResult`, with strings of type `σ`. -/
structure SetupDataCallResult (σ : Type*) where
  status : ℤ
  suggestedRetryTime : ℤ
  cid : ℤ
  active : ℤ
  type : σ
  ifname : σ
  addresses : σ
  dnses : σ
  gateways : σ
  pcscf : σ
  mtu : ℤ
  deriving DecidableEq

/-- The string of a record in a field. -/
def RilDataCallResponse.string (r : RilDataCallResponse) : Field → Option Text
  | .type => r.type
  | .ifname => r.ifname
  | .addresses => r.addresses
  | .dnses => r.dnses
  | .gateways => r.gateways
  | .pcscf => r.pcscf

/-- The strings of a result. -/
def SetupDataCallResult.strings {σ : Type*} (r : SetupDataCallResult σ) : List σ :=
  [r.type, r.ifname, r.addresses, r.dnses, r.gateways, r.pcscf]

/-- A result with its strings replaced. -/
def SetupDataCallResult.map {σ τ : Type*} (f : σ → τ) (r : SetupDataCallResult σ) :
    SetupDataCallResult τ :=
  ⟨r.status, r.suggestedRetryTime, r.cid, r.active, f r.type, f r.ifname, f r.addresses,
    f r.dnses, f r.gateways, f r.pcscf, r.mtu⟩

/-- The storage that a string of a result can refer to. -/
inductive Block where
  /-- the string of the vendor's record `i` in a field -/
  | vendor (i : ℕ) (f : Field)
  /-- the array `mapped` of `convertRilDataCallToHal` for record `i` -/
  | converted (i : ℕ)
  /-- the array `mapped` of `setupDataCallResponse` -/
  | setup
  deriving DecidableEq

/-- A result with its strings as views. -/
abbrev Result := SetupDataCallResult (HidlString Block)

/-- The texts that were assigned to a result. -/
def Result.texts (r : Result) : SetupDataCallResult Text := r.map View.text

/-- The storage when a handler is called: the vendor keeps its records until it returns. -/
def vendorStore (calls : ℕ → RilDataCallResponse) : Store Block Text
  | .vendor i f => (calls i).string f
  | .converted _ => none
  | .setup => none

/-! ## Interface names -/

def ifnamsiz : ℕ := 16

/-- `/sys/class/net/%s`, printed into an array of `size` bytes. -/
def sysClassNet (size : ℕ) (name : Text) : Text := snprintf size ("/sys/class/net/".toList ++ name)

/-- `strncmp(vif, "ccemni", 6) == 0` -/
def isCcemni (vif : Text) : Bool := "ccemni".toList.isPrefixOf vif

/-- `ccmni%s` of what follows the first six characters. -/
def mappedIfname (vif : Text) : Text := snprintf ifnamsiz ("ccmni".toList ++ vif.drop 6)

/-- `ccmni%d` -/
def ccmni (cid : ℤ) : Text := snprintf ifnamsiz ("ccmni".toList ++ (toString cid).toList)

/-- The name of the interface for record `i`.  `access` says which paths exist. -/
def convertIfname (access : Text → Bool) (i : ℕ) (ifname : Option Text) (m : Store Block Text) :
    HidlString Block × Store Block Text :=
  let vendor := convertCharPtrToHidlString (.vendor i .ifname) ifname
  match ifname with
  | none => (vendor, m)
  | some vif =>
      if isCcemni vif then
        let mapped := mappedIfname vif
        let m := m.enter (.converted i) mapped
        if access (sysClassNet 64 mapped) then
          (convertCharPtrToHidlString (.converted i) (some mapped), m.leave (.converted i))
        else (vendor, m.leave (.converted i))
      else (vendor, m)

/-! ## Conversions -/

/-- `convertRilDataCallToHal` for record `i`. -/
def convertRilDataCallToHal (access : Text → Bool) (i : ℕ) (r : RilDataCallResponse)
    (m : Store Block Text) : Result × Store Block Text :=
  let string f := convertCharPtrToHidlString (.vendor i f) (r.string f)
  let (ifname, m) := convertIfname access i r.ifname m
  (⟨r.status, r.suggestedRetryTime, r.cid, r.active, string .type, ifname, string .addresses,
    string .dnses, string .gateways, string .pcscf, r.mtu⟩, m)

/-- `convertRilDataCallListToHal` for the first `num` records. -/
def convertRilDataCallListToHal (access : Text → Bool) (calls : ℕ → RilDataCallResponse) :
    ℕ → Store Block Text → List Result × Store Block Text
  | 0, m => ([], m)
  | num + 1, m =>
      let (results, m) := convertRilDataCallListToHal access calls num m
      let (result, m) := convertRilDataCallToHal access num (calls num) m
      (results ++ [result], m)

/-! ## Handlers -/

/-- `SetupDataCallResult result = {}` -/
def zeroResult : Result :=
  ⟨0, 0, 0, 0, .empty, .empty, .empty, .empty, .empty, .empty, 0⟩

/-- `DataCallFailCause::ERROR_UNSPECIFIED` -/
def errorUnspecified : ℤ := 0xffff

/-- The block of `setupDataCallResponse` that names the interface by the id of the call. -/
def nameByCid (access : Text → Bool) (result : Result) (m : Store Block Text) :
    Result × Store Block Text :=
  let mapped := ccmni result.cid
  let m := m.enter .setup mapped
  if access (sysClassNet 80 mapped) then
    ({ result with ifname := convertCharPtrToHidlString .setup (some mapped) }, m.leave .setup)
  else (result, m.leave .setup)

/-- `radio::setupDataCallResponse`: the callback, if the client is `connected`. -/
def setupDataCallResponse (access : Text → Bool) (connected : Bool) (responseType serial e : ℤ)
    (response : Option RilDataCallResponse) (responseLen : ℕ) :
    Option (Callback RadioResponseInfo Result Block) :=
  if connected then
    let info := populateResponseInfo serial responseType e
    match response with
    | none => some ⟨info.invalidResponse e, { zeroResult with status := errorUnspecified },
        fun _ => none⟩
    | some r =>
        if responseLen < sizeofRecord then
          some ⟨info.invalidResponse e, { zeroResult with status := errorUnspecified },
            vendorStore fun _ => r⟩
        else
          let (result, m) := convertRilDataCallToHal access 0 r (vendorStore fun _ => r)
          let (result, m) := nameByCid access result m
          some ⟨info, result, m⟩
  else none

/-- `radio::getDataCallListResponse`; `response` is the array at the pointer. -/
def getDataCallListResponse (access : Text → Bool) (connected : Bool)
    (responseType serial e : ℤ) (response : Option (ℕ → RilDataCallResponse)) (responseLen : ℕ) :
    Option (Callback RadioResponseInfo (List Result) Block) :=
  if connected then
    let info := populateResponseInfo serial responseType e
    match response with
    | none => some ⟨info.invalidResponse e, [], fun _ => none⟩
    | some calls =>
        if responseLen % sizeofRecord ≠ 0 then
          some ⟨info.invalidResponse e, [], vendorStore calls⟩
        else
          let (results, m) := convertRilDataCallListToHal access calls
            (responseLen / sizeofRecord) (vendorStore calls)
          some ⟨info, results, m⟩
  else none

/-- `radio::dataCallListChangedInd`.  A null pointer is let through with the length 0 only, so
that no record is read from it. -/
def dataCallListChangedInd (access : Text → Bool) (connected : Bool) (indicationType : ℤ)
    (response : Option (ℕ → RilDataCallResponse)) (responseLen : ℕ) :
    Option (Callback IndicationType (List Result) Block) :=
  if connected then
    if (response.isNone && responseLen ≠ 0) || responseLen % sizeofRecord ≠ 0 then none
    else
      let type := convertIntToRadioIndicationType indicationType
      match response with
      | none => some ⟨type, [], fun _ => none⟩
      | some calls =>
          let (results, m) := convertRilDataCallListToHal access calls
            (responseLen / sizeofRecord) (vendorStore calls)
          some ⟨type, results, m⟩
  else none

/-! ## What a conversion shows -/

/-- The interface name that a conversion shows. -/
def shownIfname (access : Text → Bool) : Option Text → Text
  | none => []
  | some vif =>
      if isCcemni vif && access (sysClassNet 64 (mappedIfname vif)) then mappedIfname vif else vif

/-- What a conversion shows of a record. -/
def shown (access : Text → Bool) (r : RilDataCallResponse) : SetupDataCallResult Text :=
  ⟨r.status, r.suggestedRetryTime, r.cid, r.active, r.type.getD [], shownIfname access r.ifname,
    r.addresses.getD [], r.dnses.getD [], r.gateways.getD [], r.pcscf.getD [], r.mtu⟩

section Conversions

variable (access : Text → Bool) (i : ℕ)

theorem convertIfname_text (ifname : Option Text) (m : Store Block Text) :
    (convertIfname access i ifname m).1.text = shownIfname access ifname := by
  unfold convertIfname shownIfname
  cases ifname with
  | none => rfl
  | some vif =>
      cases hccemni : isCcemni vif with
      | false => simp [hccemni]
      | true =>
          cases hexists : access (sysClassNet 64 (mappedIfname vif)) <;> simp [hccemni, hexists]

/-- The array of the conversion is gone when it returns. -/
theorem convertIfname_store (ifname : Option Text) {m : Store Block Text}
    (hm : m (.converted i) = none) : (convertIfname access i ifname m).2 = m := by
  unfold convertIfname
  cases ifname with
  | none => rfl
  | some vif =>
      simp only
      split
      · split <;> exact Store.leave_enter m _ hm
      · rfl

theorem convertRilDataCallToHal_texts (r : RilDataCallResponse) (m : Store Block Text) :
    (convertRilDataCallToHal access i r m).1.texts = shown access r := by
  unfold convertRilDataCallToHal Result.texts SetupDataCallResult.map shown
  simp only [convertCharPtrToHidlString_text, convertIfname_text, RilDataCallResponse.string]

theorem convertRilDataCallToHal_store (r : RilDataCallResponse) {m : Store Block Text}
    (hm : m (.converted i) = none) : (convertRilDataCallToHal access i r m).2 = m :=
  convertIfname_store access i r.ifname hm

theorem convertRilDataCallListToHal_succ (calls : ℕ → RilDataCallResponse) (num : ℕ)
    (m : Store Block Text) :
    convertRilDataCallListToHal access calls (num + 1) m =
      let before := convertRilDataCallListToHal access calls num m
      let last := convertRilDataCallToHal access num (calls num) before.2
      (before.1 ++ [last.1], last.2) := rfl

/-- The texts of a converted list are those of its records, in their order. -/
theorem convertRilDataCallListToHal_texts (calls : ℕ → RilDataCallResponse) (num : ℕ)
    (m : Store Block Text) :
    (convertRilDataCallListToHal access calls num m).1.map Result.texts =
      (List.range num).map fun i => shown access (calls i) := by
  induction num with
  | zero => rfl
  | succ num ih =>
      rw [convertRilDataCallListToHal_succ, List.range_succ, List.map_append, List.map_append, ih]
      simp only [List.map_cons, List.map_nil, convertRilDataCallToHal_texts]

/-- Nothing of a conversion is left in the storage. -/
theorem convertRilDataCallListToHal_store (calls : ℕ → RilDataCallResponse) (num : ℕ)
    {m : Store Block Text} (hm : ∀ i, m (.converted i) = none) :
    (convertRilDataCallListToHal access calls num m).2 = m := by
  induction num with
  | zero => rfl
  | succ num ih =>
      rw [convertRilDataCallListToHal_succ]
      simp only [ih]
      exact convertRilDataCallToHal_store access num (calls num) (hm num)

end Conversions

/-- What a set-up shows of a record. -/
def shownBySetup (access : Text → Bool) (r : RilDataCallResponse) : SetupDataCallResult Text :=
  if access (sysClassNet 80 (ccmni r.cid)) then
    { shown access r with ifname := ccmni r.cid }
  else shown access r

theorem nameByCid_texts (access : Text → Bool) (result : Result) (m : Store Block Text) :
    (nameByCid access result m).1.texts =
      if access (sysClassNet 80 (ccmni result.cid)) then
        { result.texts with ifname := ccmni result.cid }
      else result.texts := by
  unfold nameByCid
  cases hexists : access (sysClassNet 80 (ccmni result.cid)) with
  | false => simp [hexists]
  | true => simp [hexists, Result.texts, SetupDataCallResult.map]

/-! ## The handlers, for records and lists that are accepted -/

section Handlers

variable (access : Text → Bool) (responseType serial e : ℤ)

/-- A set-up that is accepted. -/
theorem setupDataCallResponse_accepted (r : RilDataCallResponse) {responseLen : ℕ}
    (hlen : sizeofRecord ≤ responseLen) :
    setupDataCallResponse access true responseType serial e (some r) responseLen =
      let converted := convertRilDataCallToHal access 0 r (vendorStore fun _ => r)
      let named := nameByCid access converted.1 converted.2
      some ⟨populateResponseInfo serial responseType e, named.1, named.2⟩ := by
  have hnot : ¬ responseLen < sizeofRecord := Nat.not_lt.2 hlen
  simp only [setupDataCallResponse, if_true, if_neg hnot]

/-- A list that is accepted as an answer. -/
theorem getDataCallListResponse_accepted (calls : ℕ → RilDataCallResponse) {responseLen : ℕ}
    (hlen : responseLen % sizeofRecord = 0) :
    getDataCallListResponse access true responseType serial e (some calls) responseLen =
      let converted := convertRilDataCallListToHal access calls (responseLen / sizeofRecord)
        (vendorStore calls)
      some ⟨populateResponseInfo serial responseType e, converted.1, converted.2⟩ := by
  have hnot : ¬ responseLen % sizeofRecord ≠ 0 := fun h => h hlen
  simp only [getDataCallListResponse, if_true, if_neg hnot]

/-- A list that is accepted as an indication. -/
theorem dataCallListChangedInd_accepted (indicationType : ℤ) (calls : ℕ → RilDataCallResponse)
    {responseLen : ℕ} (hlen : responseLen % sizeofRecord = 0) :
    dataCallListChangedInd access true indicationType (some calls) responseLen =
      let converted := convertRilDataCallListToHal access calls (responseLen / sizeofRecord)
        (vendorStore calls)
      some ⟨convertIntToRadioIndicationType indicationType, converted.1, converted.2⟩ := by
  simp [dataCallListChangedInd, hlen]

/-- The texts of a set-up that is accepted. -/
theorem nameByCid_convert_texts (r : RilDataCallResponse) (m : Store Block Text) :
    (nameByCid access (convertRilDataCallToHal access 0 r m).1
      (convertRilDataCallToHal access 0 r m).2).1.texts = shownBySetup access r := by
  rw [nameByCid_texts, convertRilDataCallToHal_texts]
  rfl

end Handlers

/-! ## One data call, one view -/

/-- A set-up of the record, and every list with the record, as an answer and as an indication,
show the same result. -/
def SameView (access : Text → Bool) (r : RilDataCallResponse) : Prop :=
  ∀ (responseType serial e responseType' serial' e' indicationType : ℤ) (responseLen : ℕ)
    (calls : ℕ → RilDataCallResponse) (num i : ℕ),
    sizeofRecord ≤ responseLen → i < num → calls i = r →
    ∃ setup list changed,
      setupDataCallResponse access true responseType serial e (some r) responseLen = some setup ∧
      getDataCallListResponse access true responseType' serial' e' (some calls)
        (num * sizeofRecord) = some list ∧
      dataCallListChangedInd access true indicationType (some calls) (num * sizeofRecord)
        = some changed ∧
      list.result[i]?.map Result.texts = some setup.result.texts ∧
      changed.result[i]?.map Result.texts = some setup.result.texts

/-- If the interface of the call's id exists, then the vendor's name is the name of that
interface, or is rewritten to it. -/
def NamedAlike (access : Text → Bool) (r : RilDataCallResponse) : Prop :=
  access (sysClassNet 80 (ccmni r.cid)) = true →
    ∃ vif ∈ r.ifname, vif = ccmni r.cid ∨ (isCcemni vif = true ∧ mappedIfname vif = ccmni r.cid)

/-- The path of an interface name fits into the array of either handler. -/
theorem sysClassNet_eq {name : Text} (h : name.length ≤ 15) :
    sysClassNet 64 name = sysClassNet 80 name := by
  have hccemni : "/sys/class/net/".toList.length = 15 := rfl
  unfold sysClassNet snprintf
  rw [List.take_of_length_le, List.take_of_length_le] <;>
    rw [List.length_append, hccemni] <;> omega

theorem ccmni_length (cid : ℤ) : (ccmni cid).length ≤ 15 := by
  unfold ccmni snprintf
  exact List.length_take_le _ _

/-- The name of an interface never has the vendor's prefix. -/
theorem isCcemni_ccmni (cid : ℤ) : isCcemni (ccmni cid) = false := by
  unfold isCcemni ccmni snprintf ifnamsiz
  simp [List.isPrefixOf]

theorem shownIfname_ccmni (access : Text → Bool) (cid : ℤ) :
    shownIfname access (some (ccmni cid)) = ccmni cid := by
  simp [shownIfname, isCcemni_ccmni]

/-- With the interface of the call's id there, a conversion shows its name exactly when the
vendor's name leads to it. -/
theorem shownIfname_eq_ccmni_iff {access : Text → Bool} {cid : ℤ}
    (hexists : access (sysClassNet 80 (ccmni cid)) = true) (ifname : Option Text) :
    shownIfname access ifname = ccmni cid ↔
      ∃ vif ∈ ifname, vif = ccmni cid ∨ (isCcemni vif = true ∧ mappedIfname vif = ccmni cid) := by
  constructor
  · intro h
    cases ifname with
    | none =>
        have hnonempty : ccmni cid ≠ [] := by simp [ccmni, snprintf, ifnamsiz]
        exact absurd h.symm hnonempty
    | some vif =>
        refine ⟨vif, rfl, ?_⟩
        unfold shownIfname at h
        simp only at h
        split at h
        · rename_i hmapped
          exact Or.inr ⟨(Bool.and_eq_true _ _ ▸ hmapped).1, h⟩
        · exact Or.inl h
  · rintro ⟨vif, hvif, h⟩
    cases hvif
    rcases h with rfl | ⟨hccemni, hmapped⟩
    · exact shownIfname_ccmni access cid
    · have hexists' : access (sysClassNet 64 (ccmni cid)) = true := by
        rw [sysClassNet_eq (ccmni_length cid)]
        exact hexists
      simp [shownIfname, hccemni, hexists', hmapped]

/-- A set-up shows what a conversion shows exactly when the names agree. -/
theorem shownBySetup_eq_iff (access : Text → Bool) (r : RilDataCallResponse) :
    shown access r = shownBySetup access r ↔ NamedAlike access r := by
  unfold NamedAlike shownBySetup
  cases hexists : access (sysClassNet 80 (ccmni r.cid)) with
  | false => simp
  | true =>
      rw [if_pos rfl, ← shownIfname_eq_ccmni_iff hexists r.ifname]
      constructor
      · intro h _
        exact congrArg SetupDataCallResult.ifname h
      · intro h
        show shown access r = { shown access r with ifname := ccmni r.cid }
        rw [← h rfl]
        rfl

/-- The record `i` of a converted list. -/
theorem convertRilDataCallListToHal_get (access : Text → Bool) (calls : ℕ → RilDataCallResponse)
    {num i : ℕ} (hi : i < num) (m : Store Block Text) :
    (convertRilDataCallListToHal access calls num m).1[i]?.map Result.texts =
      some (shown access (calls i)) := by
  rw [← List.getElem?_map, convertRilDataCallListToHal_texts, List.getElem?_map,
    List.getElem?_range hi]
  rfl

/-- The handlers show a record alike exactly when a set-up shows what a conversion shows. -/
theorem sameView_iff_shown (access : Text → Bool) (r : RilDataCallResponse) :
    SameView access r ↔ shown access r = shownBySetup access r := by
  constructor
  · intro h
    obtain ⟨setup, list, -, hsetup, hlist, -, heq, -⟩ :=
      h 0 0 0 0 0 0 0 sizeofRecord (fun _ => r) 1 0 (Nat.le_refl _) Nat.one_pos rfl
    rw [setupDataCallResponse_accepted access 0 0 0 r (Nat.le_refl _)] at hsetup
    rw [getDataCallListResponse_accepted access 0 0 0 _ (Nat.mul_mod_left _ _)] at hlist
    cases Option.some.inj hsetup
    cases Option.some.inj hlist
    rw [convertRilDataCallListToHal_get access _ (by decide), nameByCid_convert_texts] at heq
    exact Option.some.inj heq
  · intro h responseType serial e responseType' serial' e' indicationType responseLen calls num i
      hlen hi hr
    have hpos : 0 < sizeofRecord := by decide
    have hmod : num * sizeofRecord % sizeofRecord = 0 := Nat.mul_mod_left _ _
    refine ⟨_, _, _, setupDataCallResponse_accepted access responseType serial e r hlen,
      getDataCallListResponse_accepted access responseType' serial' e' calls hmod,
      dataCallListChangedInd_accepted access indicationType calls hmod, ?_, ?_⟩
    all_goals
      rw [Nat.mul_div_cancel num hpos, convertRilDataCallListToHal_get access calls hi,
        nameByCid_convert_texts, hr, h]

/-- An active call with id 0, whose interface name the vendor has not filled. -/
def unnamedCall : RilDataCallResponse :=
  ⟨0, -1, 0, 2, some "IP".toList, none, none, none, none, none, 1500⟩

/-- Not a list of records. -/
def Malformed (response : Option (ℕ → RilDataCallResponse)) (responseLen : ℕ) : Prop :=
  (response = none ∧ responseLen ≠ 0) ∨ responseLen % sizeofRecord ≠ 0

/-- The list that the vendor reports; a null pointer with the length 0 is the empty one. -/
def reported (access : Text → Bool) (response : Option (ℕ → RilDataCallResponse))
    (responseLen : ℕ) : List (SetupDataCallResult Text) :=
  match response with
  | none => []
  | some calls => (List.range (responseLen / sizeofRecord)).map fun i => shown access (calls i)

/-- The two handlers refuse what is malformed, and decode everything else to the list that the
vendor reports, without an error. -/
structure Agree (access : Text → Bool) (response : Option (ℕ → RilDataCallResponse))
    (responseLen : ℕ) : Prop where
  refused : Malformed response responseLen → ∀ responseType serial indicationType,
    (∃ list, getDataCallListResponse access true responseType serial rilESuccess response
        responseLen = some list ∧
      list.header.error = radioErrorInvalidResponse ∧ list.result = []) ∧
    dataCallListChangedInd access true indicationType response responseLen = none
  decoded : ¬ Malformed response responseLen → ∀ responseType serial indicationType,
    ∃ list changed,
      getDataCallListResponse access true responseType serial rilESuccess response responseLen
        = some list ∧
      dataCallListChangedInd access true indicationType response responseLen = some changed ∧
      list.header.error = radioErrorNone ∧
      list.result.map Result.texts = reported access response responseLen ∧
      changed.result.map Result.texts = reported access response responseLen

/-- A length that is no multiple of the size is refused by both. -/
theorem agree_of_length (access : Text → Bool) (response : Option (ℕ → RilDataCallResponse))
    {responseLen : ℕ} (hlen : responseLen % sizeofRecord ≠ 0) :
    Agree access response responseLen := by
  refine ⟨fun _ responseType serial indicationType => ⟨?_, ?_⟩, fun h => absurd (Or.inr hlen) h⟩
  · cases response with
    | none => exact ⟨_, rfl, rfl, rfl⟩
    | some calls =>
        let info := populateResponseInfo serial responseType rilESuccess
        refine ⟨⟨info.invalidResponse rilESuccess, [], vendorStore calls⟩, ?_, rfl, rfl⟩
        unfold getDataCallListResponse
        rw [if_pos rfl]
        exact if_pos hlen
  · unfold dataCallListChangedInd
    rw [if_pos rfl, if_pos (by simp [hlen])]

/-- An array of records is decoded by both. -/
theorem agree_of_records (access : Text → Bool) (calls : ℕ → RilDataCallResponse)
    {responseLen : ℕ} (hlen : responseLen % sizeofRecord = 0) :
    Agree access (some calls) responseLen := by
  have hwell : ¬ Malformed (some calls) responseLen := by
    rintro (⟨h, -⟩ | h)
    · exact absurd h (by simp)
    · exact h hlen
  refine ⟨fun h => absurd h hwell, fun _ responseType serial indicationType => ?_⟩
  refine ⟨_, _, getDataCallListResponse_accepted access responseType serial _ calls hlen,
    dataCallListChangedInd_accepted access indicationType calls hlen, rfl, ?_, ?_⟩
  all_goals exact convertRilDataCallListToHal_texts access calls _ _

/-- A null pointer with a length is refused by both. -/
theorem agree_of_null (access : Text → Bool) {responseLen : ℕ} (hlen : responseLen ≠ 0) :
    Agree access none responseLen := by
  refine ⟨fun _ responseType serial indicationType => ⟨⟨_, rfl, rfl, rfl⟩, ?_⟩,
    fun h => absurd (Or.inl ⟨rfl, hlen⟩) h⟩
  unfold dataCallListChangedInd
  rw [if_pos rfl, if_pos (by simp [hlen])]

/-- The empty list as a null pointer: it is no malformed response, and yet refused as an
answer. -/
theorem not_agree_empty (access : Text → Bool) : ¬ Agree access none 0 := by
  intro h
  have hwell : ¬ Malformed none 0 := by
    rintro (⟨-, h⟩ | h)
    · exact h rfl
    · exact h rfl
  obtain ⟨list, -, hlist, -, herror, -⟩ := h.decoded hwell 0 0 0
  cases Option.some.inj hlist
  exact absurd herror (by decide)

/-- **Data-call lists.**  The answer and the indication agree on a pointer and a length exactly
when these are not the null pointer and the length 0. -/
theorem dataCallList_agree_iff (access : Text → Bool)
    (response : Option (ℕ → RilDataCallResponse)) (responseLen : ℕ) :
    Agree access response responseLen ↔ ¬ (response = none ∧ responseLen = 0) := by
  constructor
  · rintro h ⟨rfl, rfl⟩
    exact not_agree_empty access h
  · intro hnonempty
    by_cases hlen : responseLen % sizeofRecord = 0
    · cases response with
      | none => exact agree_of_null access fun h => hnonempty ⟨rfl, h⟩
      | some calls => exact agree_of_records access calls hlen
    · exact agree_of_length access response hlen

/-- No data call is active: the indication empties the list, the answer is an error. -/
theorem dataCallList_disagree :
    ¬ ∀ access response responseLen, Agree access response responseLen :=
  fun h => not_agree_empty (fun _ => false) (h _ none 0)

end Radio.DataCallResult
