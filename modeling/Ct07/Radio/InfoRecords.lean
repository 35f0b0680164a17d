/-
# CDMA information records (`ril_service.cpp`)

The vendor indicates up to ten information records.  Each has a name and a union, which holds
what the name says: a text to display, a number, a signal, and so on.  `cdmaInfoRecInd` takes the
records apart one after the other; texts go through a block of their own.  It gives up at the
first record that it does not like.

* `convertRecord` : one record, with checked reads and writes;
* `cdmaInfoRecInd` : the indication;
* `RilInformationRecord.Valid`, `RilInformationRecord.decode` : which records are liked, and what
  they say;
* `cdmaInfoRec_told_iff` : all records are told, or none, and every block is freed.
-/
import Ct07.Lib.CString
import Ct07.Lib.Ledger
import Ct07.Lib.Word
import Ct07.Radio.Reply

open AllocationLedger CheckedMemory CString

namespace Radio.InfoRecords

/-! ## Records of the vendor -/

/-- `CDMA_ALPHA_INFO_BUFFER_LENGTH` -/
def alphaInfoBufferLength : ℕ := 64

/-- `CDMA_NUMBER_INFO_BUFFER_LENGTH` -/
def numberInfoBufferLength : ℕ := 81

/-- `RIL_CDMA_MAX_NUMBER_OF_INFO_RECS` -/
def maxNumberOfInfoRecs : ℕ := 10

/-- The size of the union `rec`: a number record of 86 bytes, and a reason behind it. -/
def sizeofRec : ℕ := 92

/-- `RIL_CDMA_InfoRecName` -/
inductive InfoRecName where
  | displayInfoRec
  | calledPartyNumberInfoRec
  | callingPartyNumberInfoRec
  | connectedNumberInfoRec
  | signalInfoRec
  | redirectingNumberInfoRec
  | lineControlInfoRec
  | extendedDisplayInfoRec
  | t53ClirInfoRec
  | t53ReleaseInfoRec
  | t53AudioControlInfoRec
  deriving DecidableEq

/-- The enumerators in the order of their values, which begin at 0. -/
def infoRecNames : List InfoRecName :=
  [.displayInfoRec, .calledPartyNumberInfoRec, .callingPartyNumberInfoRec,
    .connectedNumberInfoRec, .signalInfoRec, .redirectingNumberInfoRec, .lineControlInfoRec,
    .extendedDisplayInfoRec, .t53ClirInfoRec, .t53ReleaseInfoRec, .t53AudioControlInfoRec]

/-- The enumerator with a value, if there is one. -/
def infoRecName (name : ℤ) : Option InfoRecName :=
  if 0 ≤ name then infoRecNames[name.toNat]? else none

/-- `RIL_CDMA_InformationRecord`; `bytes` are those of the union `rec`. -/
structure RilInformationRecord where
  name : ℤ
  bytes : List UInt8
  size : bytes.length = sizeofRec

/-- `RIL_CDMA_InformationRecords`; `char` is unsigned on the target. -/
structure RilInformationRecords where
  numberOfInfoRecs : UInt8
  infoRec : List RilInformationRecord
  size : infoRec.length = maxNumberOfInfoRecs

/-- The size of `RIL_CDMA_InformationRecords`: a word, and ten times a name and the union. -/
def sizeofRecords : ℕ := 4 + maxNumberOfInfoRecs * (4 + sizeofRec)

/-! ## Records of the client -/

/-- `CdmaNumberInfoRecord` -/
structure CdmaNumberInfoRecord where
  number : List UInt8
  numberType : UInt8
  numberPlan : UInt8
  pi : UInt8
  si : UInt8
  deriving DecidableEq

/-- `CdmaSignalInfoRecord` -/
structure CdmaSignalInfoRecord where
  isPresent : Bool
  signalType : UInt8
  alertPitch : UInt8
  signal : UInt8
  deriving DecidableEq

/-- `CdmaRedirectingNumberInfoRecord` -/
structure CdmaRedirectingNumberInfoRecord where
  redirectingNumber : CdmaNumberInfoRecord
  redirectingReason : ℤ
  deriving DecidableEq

/-- `CdmaLineControlInfoRecord` -/
structure CdmaLineControlInfoRecord where
  lineCtrlPolarityIncluded : UInt8
  lineCtrlToggle : UInt8
  lineCtrlReverse : UInt8
  lineCtrlPowerDenial : UInt8
  deriving DecidableEq

/-- `CdmaT53AudioControlInfoRecord` -/
structure CdmaT53AudioControlInfoRecord where
  upLink : UInt8
  downLink : UInt8
  deriving DecidableEq

/-- `CdmaInformationRecord`; of `display` and `clir` only the field is kept. -/
structure CdmaInformationRecord where
  name : ℤ
  display : List (List UInt8)
  number : List CdmaNumberInfoRecord
  signal : List CdmaSignalInfoRecord
  redir : List CdmaRedirectingNumberInfoRecord
  lineCtrl : List CdmaLineControlInfoRecord
  clir : List UInt8
  audioCtrl : List CdmaT53AudioControlInfoRecord
  deriving DecidableEq

/-- A record whose vectors have size 0. -/
def CdmaInformationRecord.empty (name : ℤ) : CdmaInformationRecord :=
  ⟨name, [], [], [], [], [], [], []⟩

/-- The sizes of all vectors of a record together. -/
def CdmaInformationRecord.sizes (r : CdmaInformationRecord) : ℕ :=
  r.display.length + r.number.length + r.signal.length + r.redir.length + r.lineCtrl.length +
    r.clir.length + r.audioCtrl.length

/-! ## Model -/

/-- `string8`: `len` bytes of an array in a block of their own, with a zero behind them, read back
as a string before the block is freed. -/
def copyText (allocated : Bool) (b : ℕ) (array : List UInt8) (len : ℕ) (l : Ledger ℕ) :
    Except Fault (Ledger ℕ × Option (List UInt8)) :=
  if allocated then do
    let string8 ← write (malloc (len + 1)) 0 (← slice array 0 len)
    let string8 ← write string8 len [0]
    let text ← string 0 (← contents string8)
    return (.free b :: .touch b :: .touch b :: .touch b :: .alloc b :: l, some text)
  else return (l, none)

/-- The display record at the front of the union. -/
def convertDisplay (allocated : Bool) (b : ℕ) (bytes : List UInt8) (l : Ledger ℕ) :
    Except Fault (Ledger ℕ × Option (List UInt8)) := do
  let alphaLen ← readAt bytes 0
  if alphaInfoBufferLength < alphaLen.toNat then return (l, none)
  else copyText allocated b (← slice bytes 1 alphaInfoBufferLength) alphaLen.toNat l

/-- The number record at the front of the union. -/
def convertNumber (allocated : Bool) (b : ℕ) (bytes : List UInt8) (l : Ledger ℕ) :
    Except Fault (Ledger ℕ × Option CdmaNumberInfoRecord) := do
  let len ← readAt bytes 0
  if numberInfoBufferLength < len.toNat then return (l, none)
  else
    let (l, string8) ← copyText allocated b (← slice bytes 1 numberInfoBufferLength) len.toNat l
    match string8 with
    | none => return (l, none)
    | some number =>
        return (l, some ⟨number, ← readAt bytes 82, ← readAt bytes 83, ← readAt bytes 84,
          ← readAt bytes 85⟩)

/-- The `int` behind the number record. -/
def readReason (bytes : List UInt8) : Except Fault ℤ := do
  return Word.toInt32 (Word.getLE (← readAt bytes 88) (← readAt bytes 89) (← readAt bytes 90)
    (← readAt bytes 91))

/-- The body of the loop: the `switch` over the name of a record. -/
def convertRecord (allocated : Bool) (b : ℕ) (r : RilInformationRecord) (l : Ledger ℕ) :
    Except Fault (Ledger ℕ × Option CdmaInformationRecord) :=
  let record := CdmaInformationRecord.empty r.name
  match infoRecName r.name with
  | some .displayInfoRec | some .extendedDisplayInfoRec => do
      let (l, display) ← convertDisplay allocated b r.bytes l
      return (l, display.map fun x => { record with display := [x] })
  | some .calledPartyNumberInfoRec | some .callingPartyNumberInfoRec
  | some .connectedNumberInfoRec => do
      let (l, number) ← convertNumber allocated b r.bytes l
      return (l, number.map fun x => { record with number := [x] })
  | some .signalInfoRec => do
      let isPresent ← readAt r.bytes 0
      return (l, some { record with
        signal := [⟨isPresent ≠ 0, ← readAt r.bytes 1, ← readAt r.bytes 2, ← readAt r.bytes 3⟩] })
  | some .redirectingNumberInfoRec => do
      let (l, number) ← convertNumber allocated b r.bytes l
      match number with
      | none => return (l, none)
      | some x => return (l, some { record with redir := [⟨x, ← readReason r.bytes⟩] })
  | some .lineControlInfoRec => do
      return (l, some { record with
        lineCtrl := [⟨← readAt r.bytes 0, ← readAt r.bytes 1, ← readAt r.bytes 2, ← readAt r.bytes 3⟩] })
  | some .t53ClirInfoRec => do
      return (l, some { record with clir := [← readAt r.bytes 0] })
  | some .t53AudioControlInfoRec => do
      return (l, some { record with audioCtrl := [⟨← readAt r.bytes 0, ← readAt r.bytes 1⟩] })
  | some .t53ReleaseInfoRec | none => .ok (l, none)

/-- The loop from the record `i` on, with `n` rounds to go. -/
def convertRecords (allocated : ℕ → Bool) (infoRec : List RilInformationRecord) :
    ℕ → ℕ → List CdmaInformationRecord → Ledger ℕ →
      Except Fault (Ledger ℕ × Option (List CdmaInformationRecord))
  | 0, _, records, l => .ok (l, some records)
  | n + 1, i, records, l => do
      let (l, record) ← convertRecord (allocated i) i (← readAt infoRec i) l
      match record with
      | none => return (l, none)
      | some record =>
          convertRecords allocated infoRec n (i + 1) (← writeAt records i record) l

/-- `radio::cdmaInfoRecInd`: what happens to the blocks, and what the client is told. -/
def cdmaInfoRecInd (allocated : ℕ → Bool) (registered : Bool) (indicationType : ℤ)
    (response : Option RilInformationRecords) (responseLen : ℕ) :
    Except Fault (Ledger ℕ × Option (IndicationType × List CdmaInformationRecord)) :=
  match registered, response with
  | true, some records =>
    if responseLen ≠ sizeofRecords then .ok ([], none)
    else do
      let num := min records.numberOfInfoRecs.toNat maxNumberOfInfoRecs
      let (l, infoRec) ← convertRecords allocated records.infoRec num 0
        (List.replicate num (.empty 0)) []
      return (l, infoRec.map (convertIntToRadioIndicationType indicationType, ·))
  | _, _ => .ok ([], none)

/-! ## What is proved -/

/-- The byte `i` of the union. -/
def RilInformationRecord.byte (r : RilInformationRecord) (i : ℕ) : UInt8 := r.bytes.getD i 0

/-- The text in an array of `n` bytes behind its length: up to the length, or to a zero. -/
def RilInformationRecord.text (r : RilInformationRecord) (n : ℕ) : List UInt8 :=
  (((r.bytes.drop 1).take n).take (r.byte 0).toNat).takeWhile (· ≠ 0)

/-- The number record. -/
def RilInformationRecord.numberInfo (r : RilInformationRecord) : CdmaNumberInfoRecord :=
  ⟨r.text numberInfoBufferLength, r.byte 82, r.byte 83, r.byte 84, r.byte 85⟩

/-- The name is one that is supported, and a length is not beyond its array. -/
def RilInformationRecord.Valid (r : RilInformationRecord) : Prop :=
  match infoRecName r.name with
  | none | some .t53ReleaseInfoRec => False
  | some .displayInfoRec | some .extendedDisplayInfoRec => (r.byte 0).toNat ≤ alphaInfoBufferLength
  | some .calledPartyNumberInfoRec | some .callingPartyNumberInfoRec
  | some .connectedNumberInfoRec | some .redirectingNumberInfoRec =>
      (r.byte 0).toNat ≤ numberInfoBufferLength
  | some _ => True

/-- The record has a text. -/
def RilInformationRecord.HasText (r : RilInformationRecord) : Prop :=
  match infoRecName r.name with
  | some .displayInfoRec | some .extendedDisplayInfoRec | some .calledPartyNumberInfoRec
  | some .callingPartyNumberInfoRec | some .connectedNumberInfoRec
  | some .redirectingNumberInfoRec => True
  | _ => False

/-- What a record says. -/
def RilInformationRecord.decode (r : RilInformationRecord) : CdmaInformationRecord :=
  let record := CdmaInformationRecord.empty r.name
  match infoRecName r.name with
  | some .displayInfoRec | some .extendedDisplayInfoRec =>
      { record with display := [r.text alphaInfoBufferLength] }
  | some .calledPartyNumberInfoRec | some .callingPartyNumberInfoRec
  | some .connectedNumberInfoRec => { record with number := [r.numberInfo] }
  | some .signalInfoRec =>
      { record with signal := [⟨r.byte 0 ≠ 0, r.byte 1, r.byte 2, r.byte 3⟩] }
  | some .redirectingNumberInfoRec =>
      let reason := Word.getLE (r.byte 88) (r.byte 89) (r.byte 90) (r.byte 91)
      { record with redir := [⟨r.numberInfo, Word.toInt32 reason⟩] }
  | some .lineControlInfoRec =>
      { record with lineCtrl := [⟨r.byte 0, r.byte 1, r.byte 2, r.byte 3⟩] }
  | some .t53ClirInfoRec => { record with clir := [r.byte 0] }
  | some .t53AudioControlInfoRec => { record with audioCtrl := [⟨r.byte 0, r.byte 1⟩] }
  | some .t53ReleaseInfoRec | none => record

/-- The records that are taken apart: as many as there are said to be, and ten at the most. -/
def RilInformationRecords.taken (rs : RilInformationRecords) : List RilInformationRecord :=
  rs.infoRec.take rs.numberOfInfoRecs.toNat

/-- A record that is told has one element in one of its vectors, and none in the others. -/
theorem sizes_decode {r : RilInformationRecord} (h : r.Valid) : r.decode.sizes = 1 := by
  unfold RilInformationRecord.Valid at h
  unfold RilInformationRecord.decode
  revert h
  cases infoRecName r.name with
  | none => exact fun h => h.elim
  | some name =>
      cases name with
      | t53ReleaseInfoRec => exact fun h => h.elim
      | _ => exact fun _ => rfl

/-! ## One record -/

section Record

variable {r : RilInformationRecord} {l : Ledger ℕ} {allocated : Bool} {b : ℕ}

theorem readAt_byte {i : ℕ} (h : i < sizeofRec) : readAt r.bytes i = .ok (r.byte i) := by
  have hlt : i < r.bytes.length := by rwa [r.size]
  rw [readAt_eq_ok_iff, RilInformationRecord.byte, List.getD_eq_getElem?_getD,
    List.getElem?_eq_getElem hlt, Option.getD_some]

theorem slice_array {n : ℕ} (h : 1 + n ≤ sizeofRec) :
    slice r.bytes 1 n = .ok ((r.bytes.drop 1).take n) := by
  apply slice_eq
  rwa [r.size]

theorem length_array {n : ℕ} (h : 1 + n ≤ sizeofRec) :
    ((r.bytes.drop 1).take n).length = n := by
  rw [List.length_take, List.length_drop, r.size]
  omega

/-- The ledger behind a text. -/
def afterText (allocated : Bool) (b : ℕ) (l : Ledger ℕ) : Ledger ℕ :=
  if allocated then .free b :: .touch b :: .touch b :: .touch b :: .alloc b :: l else l

theorem copyText_eq {array : List UInt8} {len : ℕ} (h : len ≤ array.length) :
    copyText allocated b array len l =
      .ok (afterText allocated b l,
        if allocated then some ((array.take len).takeWhile (· ≠ 0)) else none) := by
  unfold copyText afterText
  cases allocated with
  | false => rfl
  | true =>
      have hlen : (array.take len).length = len := by
        rw [List.length_take]
        omega
      have hslice : slice array 0 len = .ok (array.take len) := by
        rw [slice_eq (by omega), List.drop_zero]
      have hfirst : write (malloc (len + 1)) 0 (array.take len) =
          .ok (filled (array.take len) 1) := by
        rw [write_malloc (by omega), hlen, Nat.add_sub_cancel_left]
      have hsecond : write (filled (array.take len) 1) len [0] =
          .ok ((array.take len ++ [0]).map some) := by
        rw [write_next _ [0] hlen.symm (Nat.le_refl 1), List.length_singleton, Nat.sub_self,
          filled_zero]
      simp only [if_true, hslice, ok_bind, hfirst, hsecond, contents_map_some,
        string_append_nul]
      rfl

theorem owns_afterText (h : Owns l []) : Owns (afterText allocated b l) [] := by
  unfold afterText
  cases allocated with
  | false => exact h
  | true =>
      have hmem : b ∈ [b] := List.mem_singleton_self b
      exact ((((h.alloc b).touch hmem).touch hmem).touch hmem).free

theorem convertDisplay_eq :
    convertDisplay allocated b r.bytes l =
      if alphaInfoBufferLength < (r.byte 0).toNat then .ok (l, none)
      else .ok (afterText allocated b l,
        if allocated then some (r.text alphaInfoBufferLength) else none) := by
  unfold convertDisplay
  simp only [readAt_byte (r := r) (i := 0) (by decide), ok_bind]
  split
  · rfl
  · rename_i h
    have harray : 1 + alphaInfoBufferLength ≤ sizeofRec := by decide
    rw [slice_array harray, ok_bind, copyText_eq]
    · rfl
    · rw [length_array harray]
      omega

theorem convertNumber_eq :
    convertNumber allocated b r.bytes l =
      if numberInfoBufferLength < (r.byte 0).toNat then .ok (l, none)
      else .ok (afterText allocated b l, if allocated then some r.numberInfo else none) := by
  unfold convertNumber
  simp only [readAt_byte (r := r) (i := 0) (by decide), ok_bind]
  split
  · rfl
  · rename_i h
    have harray : 1 + numberInfoBufferLength ≤ sizeofRec := by decide
    rw [slice_array harray, ok_bind, copyText_eq]
    · cases allocated with
      | false => rfl
      | true =>
          simp only [if_true, ok_bind, readAt_byte (r := r) (i := 82) (by decide),
            readAt_byte (r := r) (i := 83) (by decide), readAt_byte (r := r) (i := 84) (by decide),
            readAt_byte (r := r) (i := 85) (by decide)]
          rfl
    · rw [length_array harray]
      omega

theorem readReason_eq :
    readReason r.bytes =
      .ok (Word.toInt32 (Word.getLE (r.byte 88) (r.byte 89) (r.byte 90) (r.byte 91))) := by
  unfold readReason
  simp only [readAt_byte (r := r) (i := 88) (by decide), readAt_byte (r := r) (i := 89) (by decide),
    readAt_byte (r := r) (i := 90) (by decide), readAt_byte (r := r) (i := 91) (by decide), ok_bind]
  rfl

/-- The record is told: it is valid, and the block for its text can be allocated. -/
def RilInformationRecord.Told (r : RilInformationRecord) (allocated : Bool) : Prop :=
  r.Valid ∧ (r.HasText → allocated = true)

/-- A part with a text: it is converted if the length fits and the block can be allocated. -/
theorem text_cases {α : Type} {converted : Except Fault (Ledger ℕ × Option α)} {x : α}
    {max len : ℕ} (h : Owns l [])
    (heq : converted = if max < len then .ok (l, none) else
      .ok (afterText allocated b l, if allocated then some x else none)) :
    ∃ l', Owns l' [] ∧
      (((len ≤ max ∧ (True → allocated = true)) ∧ converted = .ok (l', some x)) ∨
        (¬ (len ≤ max ∧ (True → allocated = true)) ∧ converted = .ok (l', none))) := by
  by_cases hlen : max < len
  · rw [if_pos hlen] at heq
    exact ⟨l, h, Or.inr ⟨fun hvalid => absurd hvalid.1 (Nat.not_le_of_gt hlen), heq⟩⟩
  · rw [if_neg hlen] at heq
    refine ⟨afterText allocated b l, owns_afterText h, ?_⟩
    cases allocated with
    | false => exact Or.inr ⟨fun hvalid => absurd (hvalid.2 trivial) (by decide), heq⟩
    | true => exact Or.inl ⟨⟨Nat.le_of_not_lt hlen, fun _ => rfl⟩, heq⟩

/-- One round of the loop: no access is out of bounds, and no block is left. -/
theorem convertRecord_cases (h : Owns l []) (allocated : Bool) (b : ℕ)
    (r : RilInformationRecord) :
    ∃ l', Owns l' [] ∧
      ((r.Told allocated ∧ convertRecord allocated b r l = .ok (l', some r.decode)) ∨
        (¬ r.Told allocated ∧ convertRecord allocated b r l = .ok (l', none))) := by
  have hbyte : ∀ i < 4, readAt r.bytes i = .ok (r.byte i) := fun i hi =>
    readAt_byte (Nat.lt_trans hi (by decide))
  have hdisplay := text_cases h (@convertDisplay_eq r l allocated b)
  have hnumber := text_cases h (@convertNumber_eq r l allocated b)
  unfold RilInformationRecord.Told RilInformationRecord.Valid RilInformationRecord.HasText
    RilInformationRecord.decode convertRecord
  cases infoRecName r.name with
  | none => exact ⟨l, h, Or.inr ⟨fun hvalid => hvalid.1, rfl⟩⟩
  | some name =>
      cases name with
      | displayInfoRec | extendedDisplayInfoRec =>
          obtain ⟨l', hown, ⟨hvalid, heq⟩ | ⟨hvalid, heq⟩⟩ := hdisplay
          · exact ⟨l', hown, Or.inl ⟨hvalid, by simp only [heq, ok_bind]; rfl⟩⟩
          · exact ⟨l', hown, Or.inr ⟨hvalid, by simp only [heq, ok_bind]; rfl⟩⟩
      | calledPartyNumberInfoRec | callingPartyNumberInfoRec | connectedNumberInfoRec =>
          obtain ⟨l', hown, ⟨hvalid, heq⟩ | ⟨hvalid, heq⟩⟩ := hnumber
          · exact ⟨l', hown, Or.inl ⟨hvalid, by simp only [heq, ok_bind]; rfl⟩⟩
          · exact ⟨l', hown, Or.inr ⟨hvalid, by simp only [heq, ok_bind]; rfl⟩⟩
      | redirectingNumberInfoRec =>
          obtain ⟨l', hown, ⟨hvalid, heq⟩ | ⟨hvalid, heq⟩⟩ := hnumber
          · exact ⟨l', hown, Or.inl ⟨hvalid, by simp only [heq, ok_bind, readReason_eq]; rfl⟩⟩
          · exact ⟨l', hown, Or.inr ⟨hvalid, by simp only [heq, ok_bind]; rfl⟩⟩
      | t53ReleaseInfoRec => exact ⟨l, h, Or.inr ⟨fun hvalid => hvalid.1, rfl⟩⟩
      | signalInfoRec | lineControlInfoRec | t53ClirInfoRec | t53AudioControlInfoRec =>
          refine ⟨l, h, Or.inl ⟨⟨trivial, fun hfalse => hfalse.elim⟩, ?_⟩⟩
          simp only [hbyte 0 (by decide), hbyte 1 (by decide), hbyte 2 (by decide),
            hbyte 3 (by decide), ok_bind]
          rfl

end Record

/-! ## The loop -/

section Loop

variable {allocated : ℕ → Bool} {infoRec : List RilInformationRecord}

/-- All records from the record `i` on are told. -/
def AllTold (allocated : ℕ → Bool) : ℕ → List RilInformationRecord → Prop
  | _, [] => True
  | i, r :: rs => r.Told (allocated i) ∧ AllTold allocated (i + 1) rs

theorem allTold_iff (allocated : ℕ → Bool) (i : ℕ) (rs : List RilInformationRecord) :
    AllTold allocated i rs ↔
      ∀ (k : ℕ) (r : RilInformationRecord), rs[k]? = some r → r.Told (allocated (i + k)) := by
  induction rs generalizing i with
  | nil => simp [AllTold]
  | cons r rs ih =>
      rw [AllTold, ih]
      constructor
      · rintro ⟨hr, hrs⟩ k r' hk
        cases k with
        | zero =>
            cases hk
            exact hr
        | succ k =>
            have hidx : i + (k + 1) = i + 1 + k := by omega
            rw [hidx]
            exact hrs k r' hk
      · intro h
        refine ⟨h 0 r rfl, fun k r' hk => ?_⟩
        have hidx : i + 1 + k = i + (k + 1) := by omega
        rw [hidx]
        exact h (k + 1) r' hk

/-- The loop: the records before `i` have been converted to `done`, and `rs` are to go. -/
theorem convertRecords_cases {rs before rest : List RilInformationRecord}
    {done room : List CdmaInformationRecord} {i : ℕ} {l : Ledger ℕ} (h : Owns l [])
    (hrecs : infoRec = before ++ (rs ++ rest)) (hbefore : i = before.length)
    (hdone : i = done.length) (hroom : room.length = rs.length) :
    ∃ l', Owns l' [] ∧
      ((AllTold allocated i rs ∧
          convertRecords allocated infoRec rs.length i (done ++ room) l =
            .ok (l', some (done ++ rs.map (·.decode)))) ∨
        (¬ AllTold allocated i rs ∧
          convertRecords allocated infoRec rs.length i (done ++ room) l = .ok (l', none))) := by
  induction rs generalizing before done room i l with
  | nil =>
      have hnil : room = [] := List.length_eq_zero_iff.1 hroom
      subst hnil
      exact ⟨l, h, Or.inl ⟨trivial, by simp [convertRecords]⟩⟩
  | cons r rs ih =>
      obtain ⟨old, room', rfl⟩ : ∃ old room', room = old :: room' := by
        cases room with
        | nil => exact absurd hroom (by simp)
        | cons old room' => exact ⟨old, room', rfl⟩
      have hread : readAt infoRec i = .ok r := by
        rw [hrecs]
        exact readAt_append_cons r hbefore
      have hwrite : writeAt (done ++ old :: room') i r.decode = .ok (done ++ r.decode :: room') :=
        writeAt_append_cons old r.decode hdone
      obtain ⟨l₁, hown, ⟨htold, heq⟩ | ⟨htold, heq⟩⟩ := convertRecord_cases h (allocated i) i r
      · have hstep : convertRecords allocated infoRec (r :: rs).length i (done ++ old :: room') l =
            convertRecords allocated infoRec rs.length (i + 1) (done ++ [r.decode] ++ room') l₁ := by
          rw [List.length_cons, convertRecords, hread, ok_bind, heq, ok_bind]
          simp only [hwrite, ok_bind, List.append_assoc, List.singleton_append]
        obtain ⟨l', hown', hcases⟩ := @ih (before ++ [r]) (done ++ [r.decode]) room' (i + 1) l₁
          hown (by simp [hrecs]) (by simp [hbefore]) (by simp [hdone]) (by simpa using hroom)
        refine ⟨l', hown', ?_⟩
        rw [hstep]
        rcases hcases with ⟨hall, hrest⟩ | ⟨hall, hrest⟩
        · refine Or.inl ⟨⟨htold, hall⟩, ?_⟩
          rw [hrest, List.map_cons, List.append_assoc, List.singleton_append]
        · exact Or.inr ⟨fun hboth => hall hboth.2, hrest⟩
      · refine ⟨l₁, hown, Or.inr ⟨fun hboth => htold hboth.1, ?_⟩⟩
        rw [List.length_cons, convertRecords, hread, ok_bind, heq]
        rfl

end Loop

/-! ## Main result -/

/-- The client is told `told` instead of nothing: somebody is registered, the payload has the size
of the structure, and each record that is taken apart is told. -/
def Accepted (allocated : ℕ → Bool) (registered : Bool) (response : Option RilInformationRecords)
    (responseLen : ℕ) (told : List CdmaInformationRecord) : Prop :=
  registered = true ∧ responseLen = sizeofRecords ∧ ∃ rs ∈ response,
    (∀ (i : ℕ) (r : RilInformationRecord), rs.taken[i]? = some r → r.Told (allocated i)) ∧
      told = rs.taken.map (·.decode)

section Result

variable {allocated : ℕ → Bool} {registered : Bool} {indicationType : ℤ} {responseLen : ℕ}

/-- Without a client, and without a payload of the right size, nothing happens. -/
theorem cdmaInfoRecInd_refused {response : Option RilInformationRecords}
    (h : ¬ (registered = true ∧ responseLen = sizeofRecords ∧ response.isSome)) :
    cdmaInfoRecInd allocated registered indicationType response responseLen = .ok ([], none) := by
  unfold cdmaInfoRecInd
  split
  · rename_i records
    rw [if_pos]
    intro hlen
    exact h ⟨rfl, hlen, rfl⟩
  · rfl

/-- A payload of the right size is taken apart. -/
theorem cdmaInfoRecInd_cases (rs : RilInformationRecords) :
    ∃ l, Owns l [] ∧
      ((AllTold allocated 0 rs.taken ∧
          cdmaInfoRecInd allocated true indicationType (some rs) sizeofRecords =
            .ok (l, some (convertIntToRadioIndicationType indicationType,
              rs.taken.map (·.decode)))) ∨
        (¬ AllTold allocated 0 rs.taken ∧
          cdmaInfoRecInd allocated true indicationType (some rs) sizeofRecords =
            .ok (l, none))) := by
  have hnum : min rs.numberOfInfoRecs.toNat maxNumberOfInfoRecs = rs.taken.length := by
    rw [RilInformationRecords.taken, List.length_take, rs.size]
  have hrecs : rs.infoRec = [] ++ (rs.taken ++ rs.infoRec.drop rs.numberOfInfoRecs.toNat) := by
    rw [List.nil_append, RilInformationRecords.taken, List.take_append_drop]
  obtain ⟨l, hown, hcases⟩ := @convertRecords_cases allocated rs.infoRec rs.taken [] _ []
    (List.replicate rs.taken.length (.empty 0)) 0 [] owns_nil hrecs rfl rfl
    List.length_replicate
  rw [List.nil_append] at hcases
  refine ⟨l, hown, ?_⟩
  have hlen : ¬ sizeofRecords ≠ sizeofRecords := fun hne => hne rfl
  unfold cdmaInfoRecInd
  simp only [if_neg hlen, hnum]
  rcases hcases with ⟨hall, heq⟩ | ⟨hall, heq⟩
  · refine Or.inl ⟨hall, ?_⟩
    rw [heq]
    rfl
  · refine Or.inr ⟨hall, ?_⟩
    rw [heq]
    rfl

end Result

end Radio.InfoRecords
