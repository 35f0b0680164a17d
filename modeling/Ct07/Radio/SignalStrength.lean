/-
# The signal strength (`ril_service.cpp`)

`convertRilSignalStrengthToHal` remaps four of the LTE values in the buffer of the vendor, and then
copies all values into the record for the client.  Arithmetic that overflows aborts the daemon.

* `convertRilSignalStrengthToHal` : the buffer that it leaves and the record, or the overflow;
* `Normalised` : no overflow, an RSRP that is not negative, and nothing else changed, also when the
  buffer is converted once more;
* `normalised_iff` : for every RSRP but the least number of 32 bits.

The unsigned fields of the record for the client have the same 32 bits.
-/
import Mathlib.Data.Int.Notation

namespace Radio.SignalStrength

/-! ## Signed arithmetic of 32 bits -/

/-- The trap of the sanitizer. -/
inductive Trap where
  | overflow
  deriving DecidableEq

/-- The negation, unless it does not fit. -/
def neg (x : Int32) : Except Trap Int32 :=
  if Int32.minValue.toInt ≤ -x.toInt ∧ -x.toInt ≤ Int32.maxValue.toInt then
    .ok (Int32.ofInt (-x.toInt))
  else .error .overflow

theorem neg_of_ne {x : Int32} (h : x ≠ Int32.minValue) :
    ∃ y, neg x = .ok y ∧ y.toInt = -x.toInt := by
  have hlo := x.le_toInt
  have hhi := x.toInt_lt
  have hmin : Int32.minValue.toInt = -2147483648 := by decide
  have hmax : Int32.maxValue.toInt = 2147483647 := by decide
  have hne : x.toInt ≠ -2147483648 := by
    rw [← hmin]
    exact fun heq => h (Int32.toInt_inj.1 heq)
  refine ⟨Int32.ofInt (-x.toInt), ?_, ?_⟩
  · rw [neg, if_pos]
    rw [hmin, hmax]
    omega
  · apply Int32.toInt_ofInt_of_le <;> omega

/-! ## The records -/

structure GwSignalStrength where
  signalStrength : Int32
  bitErrorRate : Int32
  deriving DecidableEq

structure CdmaSignalStrength where
  dbm : Int32
  ecio : Int32
  deriving DecidableEq

structure EvdoSignalStrength where
  dbm : Int32
  ecio : Int32
  signalNoiseRatio : Int32
  deriving DecidableEq

structure LteSignalStrength where
  signalStrength : Int32
  rsrp : Int32
  rsrq : Int32
  rssnr : Int32
  cqi : Int32
  deriving DecidableEq

/-- `RIL_SignalStrength_v6`, in the buffer of the vendor. -/
structure RilSignalStrength where
  GW_SignalStrength : GwSignalStrength
  CDMA_SignalStrength : CdmaSignalStrength
  EVDO_SignalStrength : EvdoSignalStrength
  LTE_SignalStrength : LteSignalStrength
  deriving DecidableEq

/-- `SignalStrength`, for the client. -/
structure HalSignalStrength where
  gw : GwSignalStrength
  cdma : CdmaSignalStrength
  evdo : EvdoSignalStrength
  lte : LteSignalStrength
  deriving DecidableEq

/-! ## The conversion -/

/-- `signalStrength: -1 -> 99` -/
def remapSignalStrength (x : Int32) : Int32 := if x = -1 then 99 else x

/-- `rsrp: -1 -> INT_MAX all other negative value to positive` -/
def remapRsrp (x : Int32) : Except Trap Int32 :=
  if x = -1 then .ok Int32.maxValue else if x < -1 then neg x else .ok x

/-- `rsrq: -1 -> INT_MAX`, and so `cqi`. -/
def remapInvalid (x : Int32) : Int32 := if x = -1 then Int32.maxValue else x

/-- The copy of the fields. -/
def toHal (ril : RilSignalStrength) : HalSignalStrength where
  gw := ⟨ril.GW_SignalStrength.signalStrength, ril.GW_SignalStrength.bitErrorRate⟩
  cdma := ⟨ril.CDMA_SignalStrength.dbm, ril.CDMA_SignalStrength.ecio⟩
  evdo := ⟨ril.EVDO_SignalStrength.dbm, ril.EVDO_SignalStrength.ecio,
    ril.EVDO_SignalStrength.signalNoiseRatio⟩
  lte := ⟨ril.LTE_SignalStrength.signalStrength, ril.LTE_SignalStrength.rsrp,
    ril.LTE_SignalStrength.rsrq, ril.LTE_SignalStrength.rssnr, ril.LTE_SignalStrength.cqi⟩

/-- `convertRilSignalStrengthToHal`: the buffer afterwards, and the record. -/
def convertRilSignalStrengthToHal (ril : RilSignalStrength) :
    Except Trap (RilSignalStrength × HalSignalStrength) := do
  let lte := ril.LTE_SignalStrength
  let lte := { lte with signalStrength := remapSignalStrength lte.signalStrength }
  let rsrp ← remapRsrp lte.rsrp
  let lte := { lte with rsrp := rsrp }
  let lte := { lte with rsrq := remapInvalid lte.rsrq }
  -- `rssnr` uses `INT_MAX` already
  let lte := { lte with cqi := remapInvalid lte.cqi }
  let ril := { ril with LTE_SignalStrength := lte }
  return (ril, toHal ril)

/-- The record has the values of `ril`, but for the four that are remapped. -/
def SameBut (ril : RilSignalStrength) (hal : HalSignalStrength) : Prop :=
  hal.gw = ril.GW_SignalStrength ∧ hal.cdma = ril.CDMA_SignalStrength ∧
    hal.evdo = ril.EVDO_SignalStrength ∧ hal.lte.rssnr = ril.LTE_SignalStrength.rssnr

/-- The conversion does not overflow, its RSRP is not negative, it changes no other values, in the
record or in the buffer, and the buffer that it leaves is converted to the same record. -/
def Normalised (ril : RilSignalStrength) : Prop :=
  ∃ ril' hal, convertRilSignalStrengthToHal ril = .ok (ril', hal) ∧ 0 ≤ hal.lte.rsrp ∧
    SameBut ril hal ∧ SameBut ril (toHal ril') ∧
    convertRilSignalStrengthToHal ril' = .ok (ril', hal)

/-! ## The remapped values -/

theorem remapSignalStrength_idem (x : Int32) :
    remapSignalStrength (remapSignalStrength x) = remapSignalStrength x := by
  unfold remapSignalStrength
  by_cases h : x = -1
  · rw [if_pos h]
    decide
  · rw [if_neg h, if_neg h]

theorem remapInvalid_idem (x : Int32) : remapInvalid (remapInvalid x) = remapInvalid x := by
  unfold remapInvalid
  by_cases h : x = -1
  · rw [if_pos h]
    decide
  · rw [if_neg h, if_neg h]

/-- A value that is not negative stays. -/
theorem remapRsrp_of_nonneg {x : Int32} (h : 0 ≤ x) : remapRsrp x = .ok x := by
  rw [Int32.le_iff_toInt_le] at h
  change 0 ≤ x.toInt at h
  have hne : x ≠ -1 := by
    rintro rfl
    exact absurd h (by decide)
  have hlt : ¬ x < -1 := by
    rw [Int32.lt_iff_toInt_lt]
    change ¬ x.toInt < -1
    omega
  rw [remapRsrp, if_neg hne, if_neg hlt]

theorem remapRsrp_ok {x : Int32} (h : x ≠ Int32.minValue) : ∃ y, remapRsrp x = .ok y ∧ 0 ≤ y := by
  by_cases hone : x = -1
  · exact ⟨_, by rw [remapRsrp, if_pos hone], by decide⟩
  · by_cases hlt : x < -1
    · obtain ⟨y, hy, hneg⟩ := neg_of_ne h
      refine ⟨y, by rw [remapRsrp, if_neg hone, if_pos hlt, hy], ?_⟩
      rw [Int32.lt_iff_toInt_lt] at hlt
      change x.toInt < -1 at hlt
      rw [Int32.le_iff_toInt_le, hneg]
      change 0 ≤ -x.toInt
      omega
    · refine ⟨x, by rw [remapRsrp, if_neg hone, if_neg hlt], ?_⟩
      rw [Int32.lt_iff_toInt_lt] at hlt
      change ¬ x.toInt < -1 at hlt
      have : x.toInt ≠ -1 := fun heq => hone (Int32.toInt_inj.1 heq)
      rw [Int32.le_iff_toInt_le]
      change 0 ≤ x.toInt
      omega

theorem remapRsrp_minValue : remapRsrp Int32.minValue = .error .overflow := rfl

/-- The buffer with its four values remapped. -/
def RilSignalStrength.remapped (ril : RilSignalStrength) (rsrp : Int32) : RilSignalStrength :=
  { ril with
    LTE_SignalStrength := ⟨remapSignalStrength ril.LTE_SignalStrength.signalStrength, rsrp,
      remapInvalid ril.LTE_SignalStrength.rsrq, ril.LTE_SignalStrength.rssnr,
      remapInvalid ril.LTE_SignalStrength.cqi⟩ }

theorem convert_of_ok {ril : RilSignalStrength} {rsrp : Int32}
    (h : remapRsrp ril.LTE_SignalStrength.rsrp = .ok rsrp) :
    convertRilSignalStrengthToHal ril = .ok (ril.remapped rsrp, toHal (ril.remapped rsrp)) := by
  simp only [convertRilSignalStrengthToHal, h]
  rfl

theorem convert_of_error {ril : RilSignalStrength} {t : Trap}
    (h : remapRsrp ril.LTE_SignalStrength.rsrp = .error t) :
    convertRilSignalStrengthToHal ril = .error t := by
  simp only [convertRilSignalStrengthToHal, h]
  rfl

/-- Values that are remapped stay. -/
theorem remapped_remapped (ril : RilSignalStrength) (rsrp : Int32) :
    (ril.remapped rsrp).remapped rsrp = ril.remapped rsrp := by
  simp only [RilSignalStrength.remapped, remapSignalStrength_idem, remapInvalid_idem]

/-! ## Main result -/

/-- **Every record is normalised, but for one RSRP.** -/
theorem normalised_iff (ril : RilSignalStrength) :
    Normalised ril ↔ ril.LTE_SignalStrength.rsrp ≠ Int32.minValue := by
  constructor
  · rintro ⟨ril', hal, hconvert, -⟩ hmin
    rw [convert_of_error (hmin ▸ remapRsrp_minValue)] at hconvert
    exact nomatch hconvert
  · intro hne
    obtain ⟨rsrp, hrsrp, hnonneg⟩ := remapRsrp_ok hne
    refine ⟨_, _, convert_of_ok hrsrp, hnonneg, ⟨rfl, rfl, rfl, rfl⟩, ⟨rfl, rfl, rfl, rfl⟩, ?_⟩
    have hagain : remapRsrp (ril.remapped rsrp).LTE_SignalStrength.rsrp = .ok rsrp :=
      remapRsrp_of_nonneg hnonneg
    rw [convert_of_ok hagain, remapped_remapped]

/-- The vendor reports the least number as the RSRP. -/
theorem leastRsrp_not_normalised :
    ¬ Normalised ⟨⟨99, 99⟩, ⟨-1, -1⟩, ⟨-1, -1, -1⟩, ⟨20, Int32.minValue, 10, 30, 7⟩⟩ := by
  rintro ⟨ril', hal, hconvert, -⟩
  exact nomatch hconvert

end Radio.SignalStrength
