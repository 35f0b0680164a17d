/-
# Which row an unsolicited response is dispatched by

The registration checks the table of the unsolicited responses once and derives
`mtk_unsol_start` from it; `send_unsolResponse` then picks the row of each code by arithmetic
on the code.  It tests the code against the last vendor code, and the index against zero, but
not the code against the row.

* `selfCheck` : the self-check at registration;
* `sendUnsolResponse` : what is done with a code;
* `sendUnsolResponse_right_iff` : when a code is rejected or dispatched by its own row.
-/
import Ct07.Lib.TwoRanges
import Ct07.Lib.Word

open TwoRanges Word

namespace Radio.Unsol

/-! ## The table -/

/-- The functions of the service that a row can name. -/
inductive ResponseFunction where
  | radioStateChangedInd | callStateChangedInd | networkStateChangedInd | newSmsInd
  | newSmsStatusReportInd | newSmsOnSimInd | onUssdInd | nitzTimeReceivedInd
  | currentSignalStrengthInd | dataCallListChangedInd | suppSvcNotifyInd | stkSessionEndInd
  | stkProactiveCommandInd | stkEventNotifyInd | stkCallSetupInd | simSmsStorageFullInd
  | simRefreshInd | callRingInd | simStatusChangedInd | cdmaNewSmsInd | newBroadcastSmsInd
  | cdmaRuimSmsStorageFullInd | restrictedStateChangedInd | enterEmergencyCallbackModeInd
  | cdmaCallWaitingInd | cdmaOtaProvisionStatusInd | cdmaInfoRecInd | oemHookRawInd
  | indicateRingbackToneInd | resendIncallMuteInd | cdmaSubscriptionSourceChangedInd
  | cdmaPrlChangedInd | exitEmergencyCallbackModeInd | rilConnectedInd
  | voiceRadioTechChangedInd | cellInfoListInd | imsNetworkStateChangedInd
  | subscriptionStatusChangedInd | srvccStateNotifyInd | hardwareConfigChangedInd
  | radioCapabilityIndicationInd | onSupplementaryServiceIndicationInd
  | stkCallControlAlphaNotifyInd | lceDataInd | pcoDataInd | modemResetInd
  | psNetworkStateChangedInd | registrationSuspendInd | incomingCallInd | mtkEcpiInd
  | callInfoInd | setAttachApnInd
  deriving DecidableEq

inductive WakeType where
  | dontWake
  | wakePartial
  deriving DecidableEq

/-- `UnsolResponseInfo`; no function is the null pointer. -/
structure UnsolResponseInfo where
  requestNumber : ℕ
  responseFunction : Option ResponseFunction
  wakeType : WakeType
  deriving DecidableEq

/-- `RIL_UNSOL_RESPONSE_BASE` and `RIL_UNSOL_VENDOR_BASE`.  They come from `telephony/ril.h`,
which is not part of the tree: all that is used is that they are ordered, and that the last
code is an `int`. -/
structure Bases where
  response : ℕ
  vendor : ℕ
  response_lt_vendor : response < vendor
  vendor_fits : vendor + 80 < 2147483648

/-- The rows of `ril_unsol_commands.h`, without their numbers. -/
def unsolCommands : List (Option ResponseFunction × WakeType) :=
  [(some .radioStateChangedInd, .wakePartial), (some .callStateChangedInd, .wakePartial),
   (some .networkStateChangedInd, .wakePartial), (some .newSmsInd, .wakePartial),
   (some .newSmsStatusReportInd, .wakePartial), (some .newSmsOnSimInd, .wakePartial),
   (some .onUssdInd, .wakePartial), (some .onUssdInd, .dontWake),
   (some .nitzTimeReceivedInd, .wakePartial), (some .currentSignalStrengthInd, .dontWake),
   (some .dataCallListChangedInd, .wakePartial), (some .suppSvcNotifyInd, .wakePartial),
   (some .stkSessionEndInd, .wakePartial), (some .stkProactiveCommandInd, .wakePartial),
   (some .stkEventNotifyInd, .wakePartial), (some .stkCallSetupInd, .wakePartial),
   (some .simSmsStorageFullInd, .wakePartial), (some .simRefreshInd, .wakePartial),
   (some .callRingInd, .wakePartial), (some .simStatusChangedInd, .wakePartial),
   (some .cdmaNewSmsInd, .wakePartial), (some .newBroadcastSmsInd, .wakePartial),
   (some .cdmaRuimSmsStorageFullInd, .wakePartial),
   (some .restrictedStateChangedInd, .wakePartial),
   (some .enterEmergencyCallbackModeInd, .wakePartial),
   (some .cdmaCallWaitingInd, .wakePartial), (some .cdmaOtaProvisionStatusInd, .wakePartial),
   (some .cdmaInfoRecInd, .wakePartial), (some .oemHookRawInd, .wakePartial),
   (some .indicateRingbackToneInd, .wakePartial), (some .resendIncallMuteInd, .wakePartial),
   (some .cdmaSubscriptionSourceChangedInd, .wakePartial),
   (some .cdmaPrlChangedInd, .wakePartial), (some .exitEmergencyCallbackModeInd, .wakePartial),
   (some .rilConnectedInd, .wakePartial), (some .voiceRadioTechChangedInd, .wakePartial),
   (some .cellInfoListInd, .wakePartial), (some .imsNetworkStateChangedInd, .wakePartial),
   (some .subscriptionStatusChangedInd, .wakePartial),
   (some .srvccStateNotifyInd, .wakePartial), (some .hardwareConfigChangedInd, .wakePartial),
   (none, .wakePartial), (some .radioCapabilityIndicationInd, .wakePartial),
   (some .onSupplementaryServiceIndicationInd, .wakePartial),
   (some .stkCallControlAlphaNotifyInd, .wakePartial), (some .lceDataInd, .wakePartial),
   (some .pcoDataInd, .wakePartial), (some .modemResetInd, .wakePartial)]

/-- The functions of `mtk_ril_unsol_commands.h`; all of its rows say `WAKE_PARTIAL`. -/
def mtkUnsolCommands : List (Option ResponseFunction) :=
  List.replicate 15 none ++ [some .psNetworkStateChangedInd] ++
    List.replicate 8 none ++ [some .registrationSuspendInd] ++
    List.replicate 17 none ++ [some .incomingCallInd, some .mtkEcpiInd] ++
    List.replicate 5 none ++ [some .callInfoInd] ++
    List.replicate 23 none ++ [some .setAttachApnInd] ++
    List.replicate 7 none

/-- `s_unsolResponses`: the codes of both parts are numbered in the order of the rows. -/
def sUnsolResponses (b : Bases) : List UnsolResponseInfo :=
  unsolCommands.mapIdx (fun i row => ⟨b.response + i, row.1, row.2⟩) ++
    mtkUnsolCommands.mapIdx fun i f => ⟨b.vendor + i, f, .wakePartial⟩

/-! ## The self-check at registration -/

/-- The body of the self-check's loop for row `i`: the new `mtk_unsol_start`, or `none` when
the assertion fails. -/
def checkRow (b : Bases) (i mtkUnsolStart : ℕ) (row : UnsolResponseInfo) : Option ℕ :=
  if row.requestNumber < b.vendor then
    if i + b.response = row.requestNumber then some mtkUnsolStart else none
  else
    let start := if mtkUnsolStart = 0 then i else mtkUnsolStart
    if i + b.vendor - start = row.requestNumber then some start else none

/-- The loop of the self-check, from row `i` on. -/
def selfCheckFrom (b : Bases) (i mtkUnsolStart : ℕ) : List UnsolResponseInfo → Option ℕ
  | [] => some mtkUnsolStart
  | row :: rows =>
      (checkRow b i mtkUnsolStart row).bind fun start => selfCheckFrom b (i + 1) start rows

/-- The self-check of the whole table: the `mtk_unsol_start` it leaves behind. -/
def selfCheck (b : Bases) (table : List UnsolResponseInfo) : Option ℕ := selfCheckFrom b 0 0 table

/-! ## Dispatching a code -/

/-- `unsolResponseIndex`; `none` is the trap of the integer sanitizer. -/
def unsolResponseIndex (b : Bases) (mtkUnsolStart : ℕ) (unsolResponse : ℤ) : Option ℤ :=
  if unsolResponse < b.vendor then checkedInt32 (unsolResponse - b.response)
  else
    (checkedInt32 (unsolResponse - b.vendor)).bind fun i => checkedInt32 (i + mtkUnsolStart)

inductive ResponseType where
  | responseUnsolicited
  | responseUnsolicitedAckExp
  deriving DecidableEq

/-- What a row is used for: whether a wake lock is grabbed, and the function that is called
with the response type, if there is one. -/
structure Delivery where
  index : ℕ
  wakeLock : Bool
  responseType : ResponseType
  call : Option ResponseFunction
  deriving DecidableEq

/-- The part of `send_unsolResponse` after the tests, with the row at `index`. -/
def deliver (version : ℤ) (index : ℕ) (row : UnsolResponseInfo) : Delivery where
  index := index
  wakeLock := decide (row.wakeType = .wakePartial)
  responseType :=
    if 13 ≤ version ∧ row.wakeType = .wakePartial then .responseUnsolicitedAckExp
    else .responseUnsolicited
  call := row.responseFunction

inductive Outcome where
  | trapped
  | rejected
  | delivered (d : Delivery)
  deriving DecidableEq

/-- `send_unsolResponse` for one code. -/
def sendUnsolResponse (b : Bases) (rows : Rows UnsolResponseInfo) (mtkUnsolStart : ℕ)
    (version unsolResponse : ℤ) : Outcome :=
  match unsolResponseIndex b mtkUnsolStart unsolResponse with
  | none => .trapped
  | some i =>
      if i < 0 then .rejected
      else if b.vendor + 80 < unsolResponse then .rejected
      else .delivered (deliver version i.toNat (rows.read i.toNat))

/-- The code is rejected, or a row of the table that carries it is used. -/
def Outcome.Right (rows : Rows UnsolResponseInfo) (version unsolResponse : ℤ) : Outcome → Prop
  | .trapped => False
  | .rejected => True
  | .delivered d => ∃ row, rows.table[d.index]? = some row ∧
      (row.requestNumber : ℤ) = unsolResponse ∧ d = deliver version d.index row

/-- The code is below both ranges, and the subtraction does not overflow; or it is above the
last vendor code; or some row carries it. -/
def Covered (b : Bases) (table : List UnsolResponseInfo) (unsolResponse : ℤ) : Prop :=
  -2147483648 + b.response ≤ unsolResponse ∧
    (unsolResponse < b.response ∨ b.vendor + 80 < unsolResponse ∨
      ∃ row ∈ table, (row.requestNumber : ℤ) = unsolResponse)

/-! ## The index of a code -/

theorem selfCheckFrom_eq (b : Bases) (i mtkUnsolStart : ℕ) (table : List UnsolResponseInfo) :
    selfCheckFrom b i mtkUnsolStart table =
      checkFrom b.response b.vendor i mtkUnsolStart
        (table.map UnsolResponseInfo.requestNumber) := by
  induction table generalizing i mtkUnsolStart with
  | nil => rfl
  | cons row rows ih =>
      have hrow : checkRow b i mtkUnsolStart row =
          TwoRanges.checkRow b.response b.vendor i mtkUnsolStart row.requestNumber := rfl
      rw [selfCheckFrom, List.map_cons, checkFrom, hrow]
      congr 1
      funext start
      exact ih (i + 1) start

section Codes

variable {b : Bases} {rows : Rows UnsolResponseInfo} {start : ℕ} {code : ℤ}

/-- The start that an accepted table leaves behind cannot make the index overflow. -/
theorem start_le (haccept : selfCheck b rows.table = some start) :
    start + b.response ≤ b.vendor := by
  rw [selfCheck, selfCheckFrom_eq] at haccept
  exact check_start_le b.response_lt_vendor haccept

/-- A code that is too low for the subtraction. -/
theorem sendUnsolResponse_trapped (version : ℤ) (hlow : code < -2147483648 + b.response) :
    sendUnsolResponse b rows start version code = .trapped := by
  have hfits := b.vendor_fits
  have hlt := b.response_lt_vendor
  have hindex : unsolResponseIndex b start code = none := by
    rw [unsolResponseIndex, if_pos (by omega), checkedInt32, if_neg (by omega)]
  rw [sendUnsolResponse, hindex]

/-- A code below both ranges. -/
theorem sendUnsolResponse_below (version : ℤ) (hlow : -2147483648 + b.response ≤ code)
    (hcode : code < b.response) : sendUnsolResponse b rows start version code = .rejected := by
  have hlt := b.response_lt_vendor
  have hindex : unsolResponseIndex b start code = some (code - b.response) := by
    rw [unsolResponseIndex, if_pos (by omega), checkedInt32, if_pos (by omega)]
  simp only [sendUnsolResponse, hindex]
  exact if_pos (by omega)

/-- The index of a code from the first range on. -/
theorem unsolResponseIndex_eq (hstart : start + b.response ≤ b.vendor) (hcode : b.response ≤ code)
    (hint : code < 2147483648) :
    unsolResponseIndex b start code =
      some ((index b.response b.vendor start code.toNat : ℕ) : ℤ) := by
  by_cases hfirst : code < b.vendor
  · have hnat : index b.response b.vendor start code.toNat = code.toNat - b.response :=
      if_pos (by omega)
    rw [unsolResponseIndex, if_pos hfirst, checkedInt32, if_pos (by omega), hnat]
    congr 1
    omega
  · have hnat : index b.response b.vendor start code.toNat = code.toNat - b.vendor + start :=
      if_neg (by omega)
    rw [unsolResponseIndex, if_neg hfirst, checkedInt32, if_pos (by omega), Option.bind_some,
      checkedInt32, if_pos (by omega), hnat]
    congr 1
    omega

/-- A code above the last vendor code. -/
theorem sendUnsolResponse_above (version : ℤ) (hstart : start + b.response ≤ b.vendor)
    (hint : code < 2147483648) (hcode : b.vendor + 80 < code) :
    sendUnsolResponse b rows start version code = .rejected := by
  have hlt := b.response_lt_vendor
  simp only [sendUnsolResponse, unsolResponseIndex_eq hstart (by omega) hint]
  rw [if_neg (by omega), if_pos hcode]

/-- Any other code is dispatched by the row at its index. -/
theorem sendUnsolResponse_between (version : ℤ) (hstart : start + b.response ≤ b.vendor)
    (hcode : b.response ≤ code) (hlast : code ≤ b.vendor + 80) :
    sendUnsolResponse b rows start version code =
      .delivered (deliver version (index b.response b.vendor start code.toNat)
        (rows.read (index b.response b.vendor start code.toNat))) := by
  have hfits := b.vendor_fits
  simp only [sendUnsolResponse, unsolResponseIndex_eq hstart hcode (by omega)]
  rw [if_neg (by omega), if_neg (by omega), Int.toNat_natCast]

/-- The row at the index of a code is its own exactly when some row carries it. -/
theorem delivered_right_iff (version : ℤ) (haccept : selfCheck b rows.table = some start)
    (hcode : 0 ≤ code) :
    (Outcome.delivered (deliver version (index b.response b.vendor start code.toNat)
        (rows.read (index b.response b.vendor start code.toNat)))).Right rows version code ↔
      ∃ row ∈ rows.table, (row.requestNumber : ℤ) = code := by
  rw [selfCheck, selfCheckFrom_eq] at haccept
  have hown := rows.own_iff UnsolResponseInfo.requestNumber haccept code.toNat
  have hcast : ∀ row : UnsolResponseInfo,
      (row.requestNumber : ℤ) = code ↔ row.requestNumber = code.toNat := fun row => by omega
  simp only [hcast]
  rw [← hown]
  constructor
  · rintro ⟨row, hget, hnum, -⟩
    have hget' : rows.table[index b.response b.vendor start code.toNat]? = some row := hget
    obtain ⟨hin, hread⟩ := Rows.read_of_getElem? hget'
    exact ⟨hin, (congrArg UnsolResponseInfo.requestNumber hread).trans ((hcast row).1 hnum)⟩
  · rintro ⟨hin, hnum⟩
    refine ⟨rows.read (index b.response b.vendor start code.toNat), ?_, (hcast _).2 hnum, rfl⟩
    change rows.table[index b.response b.vendor start code.toNat]? = _
    rw [List.getElem?_eq_getElem hin]
    exact congrArg some (Rows.read_of_getElem? (List.getElem?_eq_getElem hin)).2.symm

end Codes

/-! ## Main result -/

/-- **A code is rejected, or dispatched by its own row, exactly when it is covered.**  For every
table that the self-check accepts, whatever follows it in memory, and every `int`. -/
theorem sendUnsolResponse_right_iff (b : Bases) (rows : Rows UnsolResponseInfo) (start : ℕ)
    (haccept : selfCheck b rows.table = some start) (version code : ℤ)
    (hint : -2147483648 ≤ code ∧ code < 2147483648) :
    (sendUnsolResponse b rows start version code).Right rows version code ↔
      Covered b rows.table code := by
  have hstart := start_le haccept
  by_cases hlow : code < -2147483648 + b.response
  · rw [sendUnsolResponse_trapped version hlow]
    exact ⟨False.elim, fun hc => absurd hc.1 (by omega)⟩
  have hlow' : -2147483648 + b.response ≤ code := by omega
  by_cases hbelow : code < b.response
  · rw [sendUnsolResponse_below version hlow' hbelow]
    exact ⟨fun _ => ⟨hlow', .inl hbelow⟩, fun _ => trivial⟩
  by_cases habove : b.vendor + 80 < code
  · rw [sendUnsolResponse_above version hstart hint.2 habove]
    exact ⟨fun _ => ⟨hlow', .inr (.inl habove)⟩, fun _ => trivial⟩
  · rw [sendUnsolResponse_between version hstart (by omega) (by omega),
      delivered_right_iff version haccept (by omega)]
    constructor
    · intro hrow
      exact ⟨hlow', .inr (.inr hrow)⟩
    · rintro ⟨-, h | h | hrow⟩
      · exact absurd h hbelow
      · exact absurd h habove
      · exact hrow

/-! ## The table of this build -/

/-- The values of `telephony/ril.h`. -/
def rilBases : Bases := ⟨1000, 3000, by decide, by decide⟩

theorem selfCheck_sUnsolResponses : selfCheck rilBases (sUnsolResponses rilBases) = some 48 := by
  decide +kernel

/-- The codes of the rows of this build. -/
theorem sUnsolResponses_numbers :
    (sUnsolResponses rilBases).map UnsolResponseInfo.requestNumber =
      List.range' 1000 48 ++ List.range' 3000 81 := by
  decide +kernel

/-- The table of this build, with rows of zeroes behind it. -/
def buildRows : Rows UnsolResponseInfo := ⟨sUnsolResponses rilBases, fun _ => ⟨0, none, .dontWake⟩⟩

/-- `NITZ_TIME_RECEIVED` is dispatched by its own row. -/
theorem sendUnsolResponse_right_nitz :
    (sendUnsolResponse rilBases buildRows 48 13 1008).Right buildRows 13 1008 ↔
      Covered rilBases buildRows.table 1008 :=
  sendUnsolResponse_right_iff rilBases buildRows 48 selfCheck_sUnsolResponses 13 1008 (by decide)

/-- The first code behind the AOSP range is dispatched by the first vendor row. -/
theorem gapCode_not_right :
    ¬ ∀ (b : Bases) (rows : Rows UnsolResponseInfo) (start : ℕ),
      selfCheck b rows.table = some start → ∀ version code : ℤ,
        -2147483648 ≤ code ∧ code < 2147483648 →
          (sendUnsolResponse b rows start version code).Right rows version code := by
  intro hall
  have hright := hall rilBases buildRows 48 selfCheck_sUnsolResponses 13 1048 (by decide)
  have hsend : sendUnsolResponse rilBases buildRows 48 13 1048 =
      .delivered ⟨48, true, .responseUnsolicitedAckExp, none⟩ := by decide +kernel
  rw [hsend] at hright
  obtain ⟨row, hget, hnum, -⟩ := hright
  have hvendor : buildRows.table[48]? = some ⟨3000, none, .wakePartial⟩ := by decide +kernel
  cases Option.some.inj (hvendor.symm.trans hget)
  exact absurd hnum (by decide)

/-- The codes that the table of this build has a row for. -/
theorem exists_row_build (code : ℤ) :
    (∃ row ∈ buildRows.table, (row.requestNumber : ℤ) = code) ↔
      1000 ≤ code ∧ code < 1048 ∨ 3000 ≤ code ∧ code < 3081 := by
  constructor
  · rintro ⟨row, hrow, rfl⟩
    have hmem : row.requestNumber ∈ List.range' 1000 48 ++ List.range' 3000 81 := by
      rw [← sUnsolResponses_numbers]
      exact List.mem_map_of_mem hrow
    simp only [List.mem_append, List.mem_range'_1] at hmem
    omega
  · intro hcode
    have hmem : code.toNat ∈ List.range' 1000 48 ++ List.range' 3000 81 := by
      simp only [List.mem_append, List.mem_range'_1]
      omega
    rw [← sUnsolResponses_numbers] at hmem
    obtain ⟨row, hrow, hnum⟩ := List.mem_map.1 hmem
    exact ⟨row, hrow, by omega⟩

/-- In the table of this build, the codes that are not covered are those of the gap between the
ranges, and those that overflow. -/
theorem not_covered_build {code : ℤ} :
    ¬ Covered rilBases buildRows.table code ↔
      code < -2147483648 + 1000 ∨ 1048 ≤ code ∧ code < 3000 := by
  have hresponse : rilBases.response = 1000 := rfl
  have hvendor : rilBases.vendor = 3000 := rfl
  unfold Covered
  rw [exists_row_build, hresponse, hvendor]
  omega

end Radio.Unsol
