/-
# What is sent and read back (`ril_service.cpp`)

Some requests hand a structure to the vendor that also comes from it, in a response or an
indication: the broadcast configurations, the allowed carriers and CDMA messages.  Each is read
here in the memory in which its dispatcher has laid it out.

* `getGsmBroadcastConfigResponse`, `getAllowedCarriersResponse`, `cdmaNewSmsInd`, … : the readers;
* `broadcastConfig_readback` : the configurations come back as they were;
* `carriers_readback` : the carriers come back, with their strings up to the first zero;
* `cdmaSms_readback_iff` : when a CDMA message does.
-/
import Ct07.Lib.RecordArray
import Ct07.Radio.PayloadCopy

open RecordArray

namespace Radio.Payload

/-! ## Readers -/

section Readers

variable {α : Type}

/-- The record to which pointer `i` of an array leads. -/
def readPointed (C : PrefixCodec α Cell) (m : Mem) (response : Addr) (i : ℕ) : Option α := do
  let resp ← (← m.readPtr response i)
  (C.decode (← m.cells resp)).map Prod.fst

/-- What both functions for broadcast configurations do. -/
def getConfigs (C : PrefixCodec α Cell) (m : Mem) (info : RadioResponseInfo) (e : ℤ)
    (response : Ptr) (responseLen : ℕ) : Option (RadioResponseInfo × List α) :=
  match response with
  | none => some (info.invalidResponse e, [])
  | some a =>
      if responseLen % sizeofPointer ≠ 0 then some (info.invalidResponse e, [])
      else (collect (readPointed C m a) 0 (responseLen / sizeofPointer)).map (info, ·)

/-- `RIL_GSM_BroadcastSmsConfigInfo` -/
def gsmBroadcastSmsConfigInfo : PrefixCodec GsmBroadcastSmsConfigInfo Cell where
  encode := rilGsmBroadcastSmsConfigInfo
  decode
    | .word (.int fromServiceId) :: .word (.int toServiceId) :: .word (.int fromCodeScheme) ::
        .word (.int toCodeScheme) :: .word (.byte selected) :: rest =>
        some (⟨fromServiceId, toServiceId, fromCodeScheme, toCodeScheme, selected = 1⟩, rest)
    | _ => none
  decode_encode := by
    rintro ⟨a, b, c, d, selected⟩ rest
    cases selected <;> rfl
  decode_shorter := by
    intro bs a rest h
    split at h
    · cases h
      simp only [List.length_cons]
      omega
    · cases h

/-- `RIL_CDMA_BroadcastSmsConfigInfo` -/
def cdmaBroadcastSmsConfigInfo : PrefixCodec CdmaBroadcastSmsConfigInfo Cell where
  encode := rilCdmaBroadcastSmsConfigInfo
  decode
    | .word (.int serviceCategory) :: .word (.int language) :: .word (.byte selected) :: rest =>
        some (⟨serviceCategory, language, selected = 1⟩, rest)
    | _ => none
  decode_encode := by
    rintro ⟨a, b, selected⟩ rest
    cases selected <;> rfl
  decode_shorter := by
    intro bs a rest h
    split at h
    · cases h
      simp only [List.length_cons]
      omega
    · cases h

def getGsmBroadcastConfigResponse (m : Mem) (serial responseType e : ℤ) (response : Ptr)
    (responseLen : ℕ) : Option (RadioResponseInfo × List GsmBroadcastSmsConfigInfo) :=
  getConfigs gsmBroadcastSmsConfigInfo m (populateResponseInfo serial responseType e) e response
    responseLen

def getCdmaBroadcastConfigResponse (m : Mem) (serial responseType e : ℤ) (response : Ptr)
    (responseLen : ℕ) : Option (RadioResponseInfo × List CdmaBroadcastSmsConfigInfo) :=
  getConfigs cdmaBroadcastSmsConfigInfo m (populateResponseInfo serial responseType e) e response
    responseLen

/-- The text of `convertCharPtrToHidlString`; a string has to end. -/
def readString (m : Mem) : Ptr → Option Text
  | none => some []
  | some a => (m.cells a).bind readText

/-- `RIL_Carrier` -/
structure RilCarrier where
  mcc : Ptr
  mnc : Ptr
  matchType : ℤ
  matchData : Ptr

def rilCarrier : PrefixCodec RilCarrier Cell where
  encode c := [.ptr c.mcc, .ptr c.mnc, .int c.matchType, .ptr c.matchData]
  decode
    | .ptr mcc :: .ptr mnc :: .word (.int matchType) :: .ptr matchData :: rest =>
        some (⟨mcc, mnc, matchType, matchData⟩, rest)
    | _ => none
  decode_encode _ _ := rfl
  decode_shorter := by
    intro bs a rest h
    split at h
    · cases h
      simp only [List.length_cons]
      omega
    · cases h

def readCarrier (m : Mem) (carrier : RilCarrier) : Option Carrier := do
  let mcc ← readString m carrier.mcc
  let mnc ← readString m carrier.mnc
  let matchData ← readString m carrier.matchData
  return ⟨mcc, mnc, carrier.matchType, matchData⟩

/-- One of the two arrays of carriers; it cannot have a negative length. -/
def readCarriers (m : Mem) (len : ℤ) (carriers : Ptr) : Option (List Carrier) :=
  let cells := (carriers.bind m.cells).getD []
  if len < 0 then none
  else collect (fun i => (getRecord rilCarrier 4 cells i).bind (readCarrier m)) 0 len.toNat

/-- `sizeof(RIL_CarrierRestrictions)` -/
def sizeofRilCarrierRestrictions : ℕ := 16

/-- The response with `allAllowed`, and the carriers. -/
def getAllowedCarriersResponse (m : Mem) (serial responseType e : ℤ) (response : Ptr)
    (responseLen : ℕ) : Option (RadioResponseInfo × Bool × CarrierRestrictions) :=
  let info := populateResponseInfo serial responseType e
  match response with
  | none => some (info, true, ⟨[], []⟩)
  | some a =>
      if responseLen ≠ sizeofRilCarrierRestrictions then
        some (info.invalidResponse e, true, ⟨[], []⟩)
      else do
        match ← m.cells a with
        | .word (.int lenAllowed) :: .word (.int lenExcluded) :: .ptr allowed :: .ptr excluded ::
            _ =>
            let allAllowed := !decide (lenAllowed > 0 ∨ lenExcluded > 0)
            let allowedCarriers ← readCarriers m lenAllowed allowed
            let excludedCarriers ← readCarriers m lenExcluded excluded
            return (info, allAllowed, ⟨allowedCarriers, excludedCarriers⟩)
        | _ => none

/-- `setToExternal` of an array of bytes, as it is read later. -/
def readBytes : ℕ → List Cell → Option (List ℕ)
  | 0, _ => some []
  | n + 1, .word (.byte b) :: cells => (readBytes n cells).map (b :: ·)
  | _, _ => none

/-- The message that `cdmaNewSmsInd` makes of a `RIL_CDMA_SMS_Message`. -/
def readCdmaSms : List Cell → Option CdmaSmsMessage
  | .word (.int teleserviceId) :: .word (.byte isServicePresent) ::
      .word (.int serviceCategory) :: .word (.int digitMode) :: .word (.int numberMode) ::
      .word (.int numberType) :: .word (.int numberPlan) :: .word (.byte numberOfDigits) ::
      digits => do
      let addressDigits ← readBytes (min numberOfDigits rilCdmaSmsAddressMax) digits
      match digits.drop rilCdmaSmsAddressMax with
      | .word (.int subaddressType) :: .word (.byte odd) :: .word (.byte numberOfDigits) ::
          digits => do
          let subaddressDigits ← readBytes (min numberOfDigits rilCdmaSmsSubaddressMax) digits
          match digits.drop rilCdmaSmsSubaddressMax with
          | .word (.int bearerDataLen) :: bearer => do
              let bearerData ←
                if bearerDataLen < 0 then none
                else readBytes (min bearerDataLen.toNat rilCdmaSmsBearerDataMax) bearer
              return ⟨teleserviceId, isServicePresent ≠ 0, serviceCategory,
                ⟨digitMode, numberMode, numberType, numberPlan, addressDigits⟩,
                ⟨subaddressType, odd ≠ 0, subaddressDigits⟩, bearerData⟩
          | _ => none
      | _ => none
  | _ => none

/-- `sizeof(RIL_CDMA_SMS_Message)` -/
def sizeofRilCdmaSmsMessage : ℕ := 363

/-- What the client is told, if it is told anything. -/
def cdmaNewSmsInd (m : Mem) (indicationType : ℤ) (response : Ptr) (responseLen : ℕ) :
    Option (Option (IndicationType × CdmaSmsMessage)) :=
  match response with
  | none => some none
  | some a =>
      if responseLen ≠ sizeofRilCdmaSmsMessage then some none
      else do
        let msg ← readCdmaSms (← m.cells a)
        return some (convertIntToRadioIndicationType indicationType, msg)

end Readers

/-! ## Broadcast configurations -/

section Configs

variable {α : Type} {C : PrefixCodec α Cell} {width : ℕ}

theorem pointersInto_eq (a : Addr) (width n : ℕ) :
    pointersInto a width n = ((List.range n).map fun i =>
      (some ⟨a.block, a.cell + width * i⟩ : Ptr)).map Cell.ptr := by
  rw [List.map_map]
  rfl

theorem sizeof_map_ptr (ps : List Ptr) : sizeof (ps.map Cell.ptr) = sizeofPointer * ps.length := by
  induction ps with
  | nil => rfl
  | cons p ps ih =>
      show sizeofPointer + sizeof (ps.map Cell.ptr) = _
      rw [ih, List.length_cons, Nat.mul_succ, Nat.add_comm]

theorem pointersInto_get (a : Addr) {n i : ℕ} (hi : i < n) :
    ptrAt (pointersInto a width n) i = some (some ⟨a.block, a.cell + width * i⟩) := by
  have hget : (pointersInto a width n)[i]? =
      some (.ptr (some ⟨a.block, a.cell + width * i⟩)) := by
    rw [pointersInto, List.getElem?_map, List.getElem?_range hi]
    rfl
  rw [ptrAt, hget]

theorem readPointed_eq {m : Mem} {response a : Addr} {i : ℕ} {cells : List Cell}
    (hptr : m.readPtr response i = some (some a)) (hcells : m.cells a = some cells) :
    readPointed C m response i = (C.decode cells).map Prod.fst := by
  rw [readPointed, hptr]
  show (m.cells a).bind _ = _
  rw [hcells]
  rfl

/-- Records that are sent as configurations are read back. -/
theorem getConfigs_sendConfigs (hwidth : ∀ a, (C.encode a).length = width) (r : Ril.RilRequest)
    (configs : List α) (info : RadioResponseInfo) (e : ℤ) :
    ∃ c, (sendConfigs r width (configs.map C.encode)).call = some c ∧
      getConfigs C (sendConfigs r width (configs.map C.encode)).mem info e c.buf c.buflen =
        some (info, configs) := by
  refine ⟨_, rfl, ?_⟩
  have hsize : sizeof (pointersInto Mem.init.here width (configs.map C.encode).length) =
      sizeofPointer * configs.length := by
    rw [pointersInto_eq, sizeof_map_ptr, List.length_map, List.length_range, List.length_map]
  have hdiv : sizeofPointer * configs.length / sizeofPointer = configs.length :=
    Nat.mul_div_cancel_left _ (by decide)
  show (if sizeof _ % sizeofPointer ≠ 0 then _ else _) = _
  rw [hsize, Nat.mul_mod_right, if_neg (fun h => h rfl), hdiv, collect_eq configs]
  · rfl
  intro k hk
  rw [Nat.zero_add, ← getRecord_flatMap hwidth configs hk, List.flatMap_def]
  have hptr : (sendConfigs r width (configs.map C.encode)).mem.readPtr
      (Mem.init.push (configs.map C.encode).flatten).here k = some (some ⟨0, 0 + width * k⟩) := by
    have hcells := push_cells_here (m := Mem.init.push (configs.map C.encode).flatten)
      (pointersInto Mem.init.here width (configs.map C.encode).length)
    rw [← List.length_map (f := C.encode)] at hk
    exact (congrArg (fun cells => cells.bind (ptrAt · k)) hcells).trans
      (pointersInto_get Mem.init.here hk)
  have hcells : (sendConfigs r width (configs.map C.encode)).mem.cells ⟨0, 0 + width * k⟩ =
      some ((configs.map C.encode).flatten.drop (width * k)) := by
    rw [Nat.zero_add]
    rfl
  exact readPointed_eq hptr hcells

end Configs

theorem setGsmBroadcastConfig_eq (configs : List GsmBroadcastSmsConfigInfo) :
    setGsmBroadcastConfig configs =
      sendConfigs .gsmSetBroadcastSmsConfig 5 (configs.map gsmBroadcastSmsConfigInfo.encode) := rfl

theorem setCdmaBroadcastConfig_eq (configs : List CdmaBroadcastSmsConfigInfo) :
    setCdmaBroadcastConfig configs =
      sendConfigs .cdmaSetBroadcastSmsConfig 3 (configs.map cdmaBroadcastSmsConfigInfo.encode) :=
  rfl

/-- **The broadcast configurations that are set are those that are got**, however many there are:
the response functions, given what the request functions have laid out, find them all. -/
theorem broadcastConfig_readback (gsm : List GsmBroadcastSmsConfigInfo)
    (cdma : List CdmaBroadcastSmsConfigInfo) (serial responseType e : ℤ) :
    (∃ c, (setGsmBroadcastConfig gsm).call = some c ∧
      getGsmBroadcastConfigResponse (setGsmBroadcastConfig gsm).mem serial responseType e c.buf
        c.buflen = some (populateResponseInfo serial responseType e, gsm)) ∧
    (∃ c, (setCdmaBroadcastConfig cdma).call = some c ∧
      getCdmaBroadcastConfigResponse (setCdmaBroadcastConfig cdma).mem serial responseType e c.buf
        c.buflen = some (populateResponseInfo serial responseType e, cdma)) := by
  rw [setGsmBroadcastConfig_eq, setCdmaBroadcastConfig_eq]
  constructor
  · exact getConfigs_sendConfigs (fun _ => rfl) _ gsm _ e
  · exact getConfigs_sendConfigs (fun _ => rfl) _ cdma _ e

/-! ## Carriers -/

/-- Up to its first zero a string is read. -/
theorem readText_cStr (s : Text) : readText (charCells (s ++ [nul])) = some (cStr s) := by
  induction s with
  | nil => rfl
  | cons c s ih =>
      show (if c = nul then some [] else (readText (charCells (s ++ [nul]))).map (c :: ·)) = _
      rw [ih]
      by_cases hc : c = nul
      · simp [cStr, hc]
      · simp [cStr, hc]

/-- Blocks are added, and nothing else is changed. -/
structure Grown (m m' : Mem) : Prop where
  le : m.next ≤ m'.next
  kept : ∀ b < m.next, m'.objects b = m.objects b

theorem Grown.refl (m : Mem) : Grown m m := ⟨Nat.le_refl _, fun _ _ => rfl⟩

theorem Grown.trans {m m' m'' : Mem} (h : Grown m m') (h' : Grown m' m'') : Grown m m'' where
  le := h.le.trans h'.le
  kept := fun b hb => (h'.kept b (Nat.lt_of_lt_of_le hb h.le)).trans (h.kept b hb)

theorem grown_push (m : Mem) (cells : List Cell) : Grown m (m.push cells) where
  le := Nat.le_succ _
  kept := fun _ hb => push_objects_of_ne m (Nat.ne_of_lt hb) cells

/-- The pointer leads to the string and its end, in a block from `lo` on. -/
def StringAt (lo : ℕ) (m : Mem) (s : Text) (p : Ptr) : Prop :=
  ∃ a, p = some a ∧ lo ≤ a.block ∧ a.block < m.next ∧ m.cells a = some (charCells (s ++ [nul]))

section StringAt

variable {lo : ℕ} {m m' : Mem} {s : Text} {p : Ptr}

theorem StringAt.read (h : StringAt lo m s p) : readString m p = some (cStr s) := by
  obtain ⟨a, rfl, -, -, hcells⟩ := h
  show (m.cells a).bind readText = _
  rw [hcells]
  exact readText_cStr s

theorem StringAt.grown (h : StringAt lo m s p) (hgrown : Grown m m') : StringAt lo m' s p := by
  obtain ⟨a, rfl, hlo, hlt, hcells⟩ := h
  refine ⟨a, rfl, hlo, Nat.lt_of_lt_of_le hlt hgrown.le, ?_⟩
  rw [← hcells, Mem.cells, hgrown.kept a.block hlt]
  rfl

theorem StringAt.write (h : StringAt lo m s p) {b : Addr} (hb : b.block < lo)
    (cells : List Cell) : StringAt lo (m.write b cells) s p := by
  obtain ⟨a, rfl, hlo, hlt, hcells⟩ := h
  have hne : a.block ≠ b.block := by omega
  refine ⟨a, rfl, hlo, hlt, ?_⟩
  rw [← hcells, Mem.cells, write_objects_of_ne m hne]
  rfl

theorem stringAt_push (hlo : lo ≤ m.next) :
    StringAt lo (m.push (charCells (s ++ [nul]))) s (some m.here) :=
  ⟨m.here, rfl, hlo, Nat.lt_succ_self _, push_cells_here _⟩

end StringAt

/-- The record has the match type of the carrier, and its pointers lead to the strings. -/
structure CarrierAt (lo : ℕ) (m : Mem) (raw : RilCarrier) (c : Carrier) : Prop where
  mcc : StringAt lo m c.mcc raw.mcc
  mnc : StringAt lo m c.mnc raw.mnc
  matchType : raw.matchType = c.matchType
  matchData : StringAt lo m c.matchData raw.matchData

/-- The carrier with its strings up to their first zeros. -/
def Carrier.cut (c : Carrier) : Carrier :=
  ⟨cStr c.mcc, cStr c.mnc, c.matchType, cStr c.matchData⟩

section Carriers

variable {lo : ℕ} {m m' : Mem}

theorem CarrierAt.read {raw : RilCarrier} {c : Carrier} (h : CarrierAt lo m raw c) :
    readCarrier m raw = some c.cut := by
  rw [readCarrier, h.mcc.read, h.mnc.read, h.matchData.read, h.matchType]
  rfl

theorem carriersAt_grown {raws : List RilCarrier} {cs : List Carrier}
    (h : List.Forall₂ (CarrierAt lo m) raws cs) (hgrown : Grown m m') :
    List.Forall₂ (CarrierAt lo m') raws cs :=
  h.imp fun _ _ hc =>
    ⟨hc.mcc.grown hgrown, hc.mnc.grown hgrown, hc.matchType, hc.matchData.grown hgrown⟩

theorem carriersAt_write {raws : List RilCarrier} {cs : List Carrier}
    (h : List.Forall₂ (CarrierAt lo m) raws cs) {b : Addr} (hb : b.block < lo)
    (cells : List Cell) : List.Forall₂ (CarrierAt lo (m.write b cells)) raws cs :=
  h.imp fun _ _ hc =>
    ⟨hc.mcc.write hb cells, hc.mnc.write hb cells, hc.matchType, hc.matchData.write hb cells⟩

/-- An array of carriers is one of records for them. -/
theorem rilCarriers_spec (lo : ℕ) (cs : List Carrier) (hlo : lo ≤ m.next) :
    ∃ raws m', rilCarriers m cs = (raws.flatMap rilCarrier.encode, m') ∧ Grown m m' ∧
      List.Forall₂ (CarrierAt lo m') raws cs := by
  induction cs generalizing m with
  | nil => exact ⟨[], m, rfl, Grown.refl m, .nil⟩
  | cons c cs ih =>
      have hmcc : StringAt lo _ c.mcc _ := stringAt_push hlo
      have hgrown₁ := grown_push m (charCells (c.mcc ++ [nul]))
      have hmnc : StringAt lo _ c.mnc _ := stringAt_push (hlo.trans hgrown₁.le)
      have hgrown₂ := grown_push (m.push (charCells (c.mcc ++ [nul]))) (charCells (c.mnc ++ [nul]))
      have hdata : StringAt lo _ c.matchData _ :=
        stringAt_push ((hlo.trans hgrown₁.le).trans hgrown₂.le)
      have hgrown₃ := grown_push ((m.push (charCells (c.mcc ++ [nul]))).push
        (charCells (c.mnc ++ [nul]))) (charCells (c.matchData ++ [nul]))
      have hgrown := (hgrown₁.trans hgrown₂).trans hgrown₃
      obtain ⟨raws, m', heq, hgrown', hraws⟩ := ih (hlo.trans hgrown.le)
      have hfirst : CarrierAt lo m' ⟨_, _, c.matchType, _⟩ c :=
        ⟨hmcc.grown ((hgrown₂.trans hgrown₃).trans hgrown'), hmnc.grown (hgrown₃.trans hgrown'),
          rfl, hdata.grown hgrown'⟩
      refine ⟨_, m', ?_, hgrown.trans hgrown', .cons hfirst hraws⟩
      rw [List.flatMap_cons]
      exact congrArg (fun x => (rilCarrier.encode ⟨some m.here, some (Mem.here _),
        c.matchType, some (Mem.here _)⟩ ++ x.1, x.2)) heq

/-- Such an array is read back. -/
theorem readCarriers_eq {raws : List RilCarrier} {cs : List Carrier} {a : Addr}
    (hcells : m.cells a = some (raws.flatMap rilCarrier.encode))
    (hraws : List.Forall₂ (CarrierAt lo m) raws cs) :
    readCarriers m cs.length (some a) = some (cs.map Carrier.cut) := by
  have hlength : raws.length = cs.length := hraws.length_eq
  have hnonneg : ¬ (cs.length : ℤ) < 0 := by omega
  show (if (cs.length : ℤ) < 0 then none else collect _ 0 (cs.length : ℤ).toNat) = _
  rw [if_neg hnonneg, Int.toNat_natCast, ← hlength, Option.bind_some, hcells, Option.getD_some]
  apply collect_bind (collect_getRecord (fun _ => rfl) raws)
  rw [List.forall₂_map_right_iff]
  exact hraws.imp fun _ _ hc => hc.read

end Carriers

/-- What is laid out for the carriers. -/
theorem setAllowedCarriers_laidOut {env : Env} {carriers : CarrierRestrictions} {c : Call}
    (h : (setAllowedCarriers env carriers).call = some c) :
    ∃ m allowed excluded, (setAllowedCarriers env carriers).mem = m ∧
      c.buf.bind m.cells = some [.int carriers.allowedCarriers.length,
        .int carriers.excludedCarriers.length, .ptr (some ⟨0, 0⟩), .ptr (some ⟨1, 0⟩)] ∧
      c.buflen = sizeofRilCarrierRestrictions ∧
      m.cells ⟨0, 0⟩ = some (allowed.flatMap rilCarrier.encode) ∧
      m.cells ⟨1, 0⟩ = some (excluded.flatMap rilCarrier.encode) ∧
      List.Forall₂ (CarrierAt 2 m) allowed carriers.allowedCarriers ∧
      List.Forall₂ (CarrierAt 2 m) excluded carriers.excludedCarriers := by
  unfold setAllowedCarriers at h ⊢
  simp only at h ⊢
  split at h
  swap
  · cases h
  rename_i hfirst
  split at h
  swap
  · cases h
  rename_i hsecond
  rw [if_pos hfirst, if_pos hsecond]
  -- the blocks 0 and 1 are the arrays, and all strings lie behind them
  generalize hm₂ : (Mem.init.alloc (List.replicate (4 * carriers.allowedCarriers.length)
    (Cell.int 0))).alloc (List.replicate (4 * carriers.excludedCarriers.length)
      (Cell.int 0)) = m₂ at h ⊢
  have hnext₂ : m₂.next = 2 := by rw [← hm₂]; rfl
  have hold₀ : ∃ old, m₂.objects 0 = some old := by rw [← hm₂]; exact ⟨_, rfl⟩
  have hold₁ : ∃ old, m₂.objects 1 = some old := by rw [← hm₂]; exact ⟨_, rfl⟩
  obtain ⟨allowed, m₃, hallowed, hgrown₃, hat₃⟩ :=
    rilCarriers_spec (m := m₂) 2 carriers.allowedCarriers (Nat.le_of_eq hnext₂.symm)
  rw [hallowed] at h ⊢
  simp only at h ⊢
  have hnext₃ : 2 ≤ m₃.next := hnext₂ ▸ hgrown₃.le
  generalize hm₄ : m₃.write Mem.init.here (allowed.flatMap rilCarrier.encode) = m₄ at h ⊢
  have hnext₄ : 2 ≤ m₄.next := by rw [← hm₄]; exact hnext₃
  obtain ⟨excluded, m₅, hexcluded, hgrown₅, hat₅⟩ :=
    rilCarriers_spec (m := m₄) 2 carriers.excludedCarriers hnext₄
  rw [hexcluded] at h ⊢
  simp only at h ⊢
  have hobjects₀ : m₄.objects 0 = some (allowed.flatMap rilCarrier.encode) := by
    obtain ⟨old, hold⟩ := hold₀
    have hkept : m₃.objects 0 = some old := (hgrown₃.kept 0 (by omega)).trans hold
    rw [← hm₄]
    exact write_objects_self (a := Mem.init.here) m₃ hkept _
  have hobjects₁ : ∃ old, m₅.objects 1 = some old := by
    obtain ⟨old, hold⟩ := hold₁
    refine ⟨old, ?_⟩
    rw [hgrown₅.kept 1 (by omega), ← hm₄, write_objects_of_ne m₃ (by decide),
      hgrown₃.kept 1 (by omega), hold]
  generalize hm₆ : m₅.write (Mem.init.alloc (List.replicate
    (4 * carriers.allowedCarriers.length) (Cell.int 0))).here
      (excluded.flatMap rilCarrier.encode) = m₆ at h ⊢
  have hnext₆ : 2 ≤ m₆.next := by rw [← hm₆]; exact hnext₄.trans hgrown₅.le
  have hobjects₀' : m₆.objects 0 = some (allowed.flatMap rilCarrier.encode) := by
    rw [← hm₆, write_objects_of_ne m₅ Nat.zero_ne_one, hgrown₅.kept 0 (by omega), hobjects₀]
  have hobjects₁' : m₆.objects 1 = some (excluded.flatMap rilCarrier.encode) := by
    obtain ⟨old, hold⟩ := hobjects₁
    rw [← hm₆]
    exact write_objects_self (a := ⟨1, 0⟩) m₅ hold _
  have hat₆ : List.Forall₂ (CarrierAt 2 m₆) allowed carriers.allowedCarriers := by
    rw [← hm₆]
    apply carriersAt_write _ Nat.one_lt_two
    apply carriersAt_grown _ hgrown₅
    rw [← hm₄]
    exact carriersAt_write hat₃ (by decide) _
  have hat₆' : List.Forall₂ (CarrierAt 2 m₆) excluded carriers.excludedCarriers := by
    rw [← hm₆]
    exact carriersAt_write hat₅ Nat.one_lt_two _
  cases Option.some.inj h
  refine ⟨_, allowed, excluded, rfl, push_cells_here _, rfl, ?_, ?_, ?_, ?_⟩
  · show (Mem.objects (m₆.push _) 0).map (·.drop 0) = _
    rw [push_objects_of_ne m₆ (by omega), hobjects₀']
    rfl
  · show (Mem.objects (m₆.push _) 1).map (·.drop 0) = _
    rw [push_objects_of_ne m₆ (by omega), hobjects₁']
    rfl
  · exact carriersAt_grown hat₆ (grown_push m₆ _)
  · exact carriersAt_grown hat₆' (grown_push m₆ _)

/-- **The carriers that are set are those that are got**, with their strings up to the first zero,
and `allAllowed` says that there are none. -/
theorem carriers_readback {env : Env} {carriers : CarrierRestrictions} {c : Call}
    (h : (setAllowedCarriers env carriers).call = some c) (serial responseType e : ℤ) :
    getAllowedCarriersResponse (setAllowedCarriers env carriers).mem serial responseType e c.buf
        c.buflen =
      some (populateResponseInfo serial responseType e,
        decide (carriers.allowedCarriers = [] ∧ carriers.excludedCarriers = []),
        ⟨carriers.allowedCarriers.map Carrier.cut, carriers.excludedCarriers.map Carrier.cut⟩) := by
  obtain ⟨m, allowed, excluded, hm, hcr, hlen, hcells₀, hcells₁, hallowed, hexcluded⟩ :=
    setAllowedCarriers_laidOut h
  rw [hm]
  cases hbuf : c.buf with
  | none =>
      rw [hbuf] at hcr
      exact nomatch hcr
  | some a =>
      rw [hbuf, Option.bind_some] at hcr
      have hflag : (!decide ((carriers.allowedCarriers.length : ℤ) > 0 ∨
          (carriers.excludedCarriers.length : ℤ) > 0)) =
            decide (carriers.allowedCarriers = [] ∧ carriers.excludedCarriers = []) := by
        rw [Bool.eq_iff_iff]
        simp only [Bool.not_eq_true', decide_eq_false_iff_not, decide_eq_true_iff,
          ← List.length_eq_zero_iff]
        omega
      unfold getAllowedCarriersResponse
      simp only [hlen, ne_eq, not_true_eq_false, if_false, hcr, Option.bind_eq_bind,
        Option.bind_some, readCarriers_eq hcells₀ hallowed, readCarriers_eq hcells₁ hexcluded,
        hflag]
      rfl

theorem carriers_readback_one :
    ∃ c, (setAllowedCarriers plainEnv ⟨[⟨"310".toList, "26".toList, 1, "0A".toList⟩], []⟩).call =
        some c ∧
      getAllowedCarriersResponse
          (setAllowedCarriers plainEnv ⟨[⟨"310".toList, "26".toList, 1, "0A".toList⟩], []⟩).mem
          7 0 0 c.buf c.buflen =
        some (populateResponseInfo 7 0 0, false,
          ⟨[⟨cStr "310".toList, cStr "26".toList, 1, cStr "0A".toList⟩], []⟩) :=
  ⟨_, rfl, carriers_readback rfl 7 0 0⟩

/-! ## CDMA messages -/

section Cdma

/-- The bytes that fit into the fields for them; the numbers of digits are of type
`unsigned char`. -/
def CdmaSmsMessage.cut (sms : CdmaSmsMessage) : CdmaSmsMessage :=
  { sms with
    address := { sms.address with
      digits := sms.address.digits.take
        (min (sms.address.digits.length % 256) rilCdmaSmsAddressMax) }
    subAddress := { sms.subAddress with
      digits := sms.subAddress.digits.take
        (min (sms.subAddress.digits.length % 256) rilCdmaSmsSubaddressMax) }
    bearerData := sms.bearerData.take (min sms.bearerData.length rilCdmaSmsBearerDataMax) }

/-- All bytes of the message fit. -/
def CdmaSmsMessage.Fits (sms : CdmaSmsMessage) : Prop :=
  sms.address.digits.length ≤ rilCdmaSmsAddressMax ∧
    sms.subAddress.digits.length ≤ rilCdmaSmsSubaddressMax ∧
    sms.bearerData.length ≤ rilCdmaSmsBearerDataMax

theorem length_byteArray (max count : ℕ) (bytes : List ℕ) :
    (byteArray max count bytes).length = max := by
  unfold byteArray
  simp only [List.length_map, List.length_append, List.length_replicate, List.length_take]
  omega

/-- An array of bytes is read up to its count, which is no larger than it. -/
theorem readBytes_byteArray (max : ℕ) {count : ℕ} {bytes : List ℕ} (hcount : count ≤ bytes.length)
    (rest : List Cell) :
    readBytes (min count max) (byteArray max count bytes ++ rest) =
      some (bytes.take (min count max)) := by
  have hread : ∀ (digits : List ℕ) (more : List Cell),
      readBytes digits.length (digits.map Cell.byte ++ more) = some digits := by
    intro digits more
    induction digits with
    | nil => rfl
    | cons b digits ih =>
        show (readBytes digits.length (digits.map Cell.byte ++ more)).map (b :: ·) = _
        rw [ih]
        rfl
  have hlength : (bytes.take (min count max)).length = min count max := by
    rw [List.length_take]
    omega
  unfold byteArray
  simp only [List.map_append, List.append_assoc]
  nth_rewrite 1 [← hlength]
  exact hread _ _

theorem sizeof_append (xs ys : List Cell) : sizeof (xs ++ ys) = sizeof xs + sizeof ys := by
  induction xs with
  | nil => exact (Nat.zero_add _).symm
  | cons x xs ih =>
      show x.size + sizeof (xs ++ ys) = x.size + sizeof xs + sizeof ys
      rw [ih, Nat.add_assoc]

theorem sizeof_byteArray (max count : ℕ) (bytes : List ℕ) :
    sizeof (byteArray max count bytes) = max := by
  have hsize : ∀ bs : List ℕ, sizeof (bs.map Cell.byte) = bs.length := by
    intro bs
    induction bs with
    | nil => rfl
    | cons b bs ih =>
        show 1 + sizeof (bs.map Cell.byte) = bs.length + 1
        rw [ih, Nat.add_comm]
  rw [byteArray, hsize, ← List.length_map (f := Cell.byte)]
  exact length_byteArray max count bytes

/-- Every message takes the same room. -/
theorem sizeof_constructCdmaSms (sms : CdmaSmsMessage) :
    sizeof (constructCdmaSms sms) = sizeofRilCdmaSmsMessage := by
  unfold constructCdmaSms
  simp [sizeof_append, sizeof, sizeof_byteArray, Cell.size, rilCdmaSmsAddressMax,
    rilCdmaSmsSubaddressMax, rilCdmaSmsBearerDataMax, sizeofRilCdmaSmsMessage]

/-- **A message is read back**, as far as it fits. -/
theorem readCdmaSms_constructCdmaSms (sms : CdmaSmsMessage) :
    readCdmaSms (constructCdmaSms sms) = some sms.cut := by
  have haddress := readBytes_byteArray rilCdmaSmsAddressMax
    (Nat.mod_le sms.address.digits.length 256)
  have hsubaddress := readBytes_byteArray rilCdmaSmsSubaddressMax
    (Nat.mod_le sms.subAddress.digits.length 256)
  have hbearer := readBytes_byteArray rilCdmaSmsBearerDataMax
    (Nat.le_refl sms.bearerData.length) []
  have hnonneg : ¬ (sms.bearerData.length : ℤ) < 0 := by omega
  rw [List.append_nil] at hbearer
  unfold constructCdmaSms
  simp only [List.cons_append, List.nil_append, List.append_assoc]
  unfold readCdmaSms
  simp only [haddress, hsubaddress, List.drop_left' (length_byteArray _ _ _), hnonneg, if_false,
    Int.toNat_natCast, hbearer, Option.bind_eq_bind, Option.bind_some, Option.pure_def]
  obtain ⟨a, present, b, address, ⟨c, odd, digits⟩, d⟩ := sms
  cases present <;> cases odd <;> rfl

theorem cdmaNewSmsInd_eq {m : Mem} {a : Addr} {cells : List Cell} {msg : CdmaSmsMessage}
    (hcells : m.cells a = some cells) (hmsg : readCdmaSms cells = some msg) (indicationType : ℤ) :
    cdmaNewSmsInd m indicationType (some a) sizeofRilCdmaSmsMessage =
      some (some (convertIntToRadioIndicationType indicationType, msg)) := by
  simp only [cdmaNewSmsInd, ne_eq, not_true_eq_false, if_false, hcells, Option.bind_eq_bind,
    Option.bind_some, hmsg, Option.pure_def]

theorem take_min_eq_self_iff (max : ℕ) {bytes : List ℕ} {count : ℕ}
    (hcount : count ≤ bytes.length) (hfits : bytes.length ≤ max → count = bytes.length) :
    bytes.take (min count max) = bytes ↔ bytes.length ≤ max := by
  have hlength : bytes.take (min count max) = bytes ↔ bytes.length ≤ min count max := by
    constructor
    · intro h
      rw [← h, List.length_take]
      exact Nat.min_le_left _ _
    · exact List.take_of_length_le
  rw [hlength]
  omega

/-- It is read back unchanged when all of it fits. -/
theorem cut_eq_iff (sms : CdmaSmsMessage) : sms.cut = sms ↔ sms.Fits := by
  have haddress := take_min_eq_self_iff rilCdmaSmsAddressMax
    (Nat.mod_le sms.address.digits.length 256) fun h =>
      Nat.mod_eq_of_lt (Nat.lt_of_le_of_lt h (by decide))
  have hsubaddress := take_min_eq_self_iff rilCdmaSmsSubaddressMax
    (Nat.mod_le sms.subAddress.digits.length 256) fun h =>
      Nat.mod_eq_of_lt (Nat.lt_of_le_of_lt h (by decide))
  have hbearer := take_min_eq_self_iff rilCdmaSmsBearerDataMax
    (Nat.le_refl sms.bearerData.length) fun _ => rfl
  rw [CdmaSmsMessage.Fits, ← haddress, ← hsubaddress, ← hbearer]
  obtain ⟨a, present, b, ⟨c, d, e, f, g⟩, ⟨h, odd, i⟩, j⟩ := sms
  simp [CdmaSmsMessage.cut]

end Cdma

/-- **A CDMA message that is sent and comes in again** is told to the client, cut to the fields of
its structure; it is the same exactly when it fits into them. -/
theorem cdmaSms_readback_iff (env : Env) (sms : CdmaSmsMessage) (indicationType : ℤ) :
    ∃ c, (sendCdmaSms env sms).call = some c ∧
      cdmaNewSmsInd (sendCdmaSms env sms).mem indicationType c.buf c.buflen =
        some (some (convertIntToRadioIndicationType indicationType, sms.cut)) ∧
      (sms.cut = sms ↔ sms.Fits) := by
  refine ⟨⟨Ril.RilRequest.cdmaSendSms.code, some Mem.init.here, sizeofRilCdmaSmsMessage, .raw⟩, ?_, ?_,
    cut_eq_iff sms⟩
  · rw [← sizeof_constructCdmaSms sms]
    rfl
  · exact cdmaNewSmsInd_eq (push_cells_here (constructCdmaSms sms))
      (readCdmaSms_constructCdmaSms sms) indicationType

end Radio.Payload
